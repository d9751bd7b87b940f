import NativeBoundary.Number.Binary64

/-!
# Shortest decimal text

A binary number is written with the fewest decimal digits that read back as the same number, and of
those the nearest to it. The digits come from comparing, for one digit, two digits and so on, the
two neighbours of the value on that decimal grid with the interval of reals that round to it.
-/

namespace NativeBoundary.Binary64

/-- The interval of reals that round to `significand · 2 ^ exponent`, its ends and its middle
multiplied by four and divided by `2 ^ exponent`. -/
structure Basin where
  low : Nat
  middle : Nat
  high : Nat
  closed : Bool

def basin (significand : Nat) (exponent : Int) : Basin where
  low := if significand = Nat.pow 2 52 && exponent > -1074 then 4 * significand - 1
    else 4 * significand - 2
  middle := 4 * significand
  high := 4 * significand + 2
  closed := significand % 2 == 0

/-- The value as numerator and denominator in units of `10 ^ place`. -/
def inUnits (quarters : Nat) (exponent place : Int) : Nat × Nat :=
  (quarters * Nat.pow 2 exponent.toNat * Nat.pow 10 (-place).toNat,
    4 * Nat.pow 2 (-exponent).toNat * Nat.pow 10 place.toNat)

/-- The point of the grid of step `10 ^ place` that lies in the basin nearest to its middle. -/
def onGrid? (significand : Nat) (exponent place : Int) : Option Nat :=
  let b := basin significand exponent
  let (middle, unit) := inUnits b.middle exponent place
  let (low, _) := inUnits b.low exponent place
  let (high, _) := inUnits b.high exponent place
  let inside (digits : Nat) : Bool :=
    if b.closed then low ≤ digits * unit && digits * unit ≤ high
    else low < digits * unit && digits * unit < high
  let below := middle / unit
  let above := below + 1
  let candidates := (if inside below then [below] else []) ++ (if inside above then [above] else [])
  match candidates with
  | [] => none
  | [digits] => some digits
  | _ =>
      let down := middle - below * unit
      let up := above * unit - middle
      if down < up || (down == up && below % 2 == 0) then some below else some above

/-- Tries ever finer grids, starting at the step `10 ^ place`. -/
def finest (significand : Nat) (exponent : Int) : Nat → Int → Nat × Int
  | 0, place => (0, place)
  | steps + 1, place =>
      match onGrid? significand exponent place with
      | some digits => if digits = 0 then finest significand exponent steps (place - 1)
          else (digits, place)
      | none => finest significand exponent steps (place - 1)

def stripZeros : Nat → Nat → Int → Nat × Int
  | 0, digits, place => (digits, place)
  | steps + 1, digits, place =>
      if digits % 10 = 0 && digits ≠ 0 then stripZeros steps (digits / 10) (place + 1)
      else (digits, place)

/-- Digits and decimal exponent of the shortest text of a positive value. -/
def shortest (significand : Nat) (exponent : Int) : Nat × Int :=
  let (digits, place) := finest significand exponent 700 310
  stripZeros 20 digits place

/-- Positional between a ten-thousandth and ten to the sixteenth, otherwise with an exponent of at
least two digits; a whole value keeps one zero after the point. -/
def text : Binary64 → List Char
  | .notANumber => "NaN".toList
  | .infinite negative => if negative then "-Infinity".toList else "Infinity".toList
  | .finite negative significand exponent =>
      let sign := if negative then ['-'] else []
      if significand = 0 then sign ++ "0.0".toList
      else
        let (digits, place) := shortest significand exponent
        let written := Nat.toDigits 10 digits
        let point : Int := written.length + place
        if -4 < point && point ≤ 16 then
          if point ≤ 0 then
            sign ++ "0.".toList ++ List.replicate (-point).toNat '0' ++ written
          else if written.length ≤ point.toNat then
            sign ++ written ++ List.replicate place.toNat '0' ++ ".0".toList
          else sign ++ written.take point.toNat ++ ['.'] ++ written.drop point.toNat
        else
          let power := point - 1
          let magnitude := Nat.toDigits 10 power.natAbs
          let padded := if magnitude.length < 2 then '0' :: magnitude else magnitude
          let fraction := written.drop 1
          sign ++ written.take 1 ++ (if fraction.isEmpty then [] else '.' :: fraction) ++
            ['e', if power < 0 then '-' else '+'] ++ padded

end NativeBoundary.Binary64
