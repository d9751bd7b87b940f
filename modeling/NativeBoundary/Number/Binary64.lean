/-!
# Binary floating point numbers

A number with a fraction or an exponent is kept as the nearest of the binary numbers with 53
significant bits and exponents from -1074 to 971, ties to the even significand. A finite value is
`± significand · 2 ^ exponent`; a magnitude that is too large becomes infinite.
-/

namespace NativeBoundary

inductive Binary64 where
  | finite (negative : Bool) (significand : Nat) (exponent : Int)
  | infinite (negative : Bool)
  | notANumber
  deriving DecidableEq, Repr

namespace Binary64

/-- The quotient rounded to the nearest whole number, a tie to the even one. -/
def roundQuotient (numerator denominator : Nat) : Nat :=
  let whole := numerator / denominator
  let twice := 2 * (numerator % denominator)
  if twice > denominator || (twice == denominator && whole % 2 == 1) then whole + 1 else whole

/-- Rounds `numerator / denominator · 2 ^ (-exponent)`. -/
def scaled (numerator denominator : Nat) (exponent : Int) : Nat :=
  roundQuotient (numerator * Nat.pow 2 (-exponent).toNat) (denominator * Nat.pow 2 exponent.toNat)

def nearest (negative : Bool) (numerator denominator : Nat) : Binary64 :=
  if numerator = 0 then .finite negative 0 (-1074)
  else
    let guess : Int := (Nat.log2 numerator : Int) - Nat.log2 denominator - 52
    let fits (exponent : Int) : Bool :=
      numerator * Nat.pow 2 (-exponent).toNat <
        denominator * Nat.pow 2 exponent.toNat * Nat.pow 2 53
    let free := if fits (guess - 1) then guess - 1 else if fits guess then guess else guess + 1
    let exponent := max free (-1074)
    let significand := scaled numerator denominator exponent
    let (significand, exponent) :=
      if significand = Nat.pow 2 53 then (Nat.pow 2 52, exponent + 1) else (significand, exponent)
    if exponent > 971 then .infinite negative else .finite negative significand exponent

/-- The value `± digits · 10 ^ exponent`, whose magnitude is first compared with the range so that
no power of ten beyond it is ever formed. -/
def ofDecimal (negative : Bool) (digits : Nat) (exponent : Int) : Binary64 :=
  let width : Int := (Nat.toDigits 10 digits).length
  if digits = 0 || width + exponent < -330 then .finite negative 0 (-1074)
  else if width + exponent > 310 then .infinite negative
  else nearest negative (digits * Nat.pow 10 exponent.toNat) (Nat.pow 10 (-exponent).toNat)

/-- The whole number that a value is, if it is one. -/
def whole? : Binary64 → Option Int
  | .finite negative significand exponent =>
      let magnitude? :=
        if 0 ≤ exponent then some (significand * Nat.pow 2 exponent.toNat)
        else if significand % Nat.pow 2 (-exponent).toNat = 0 then
          some (significand / Nat.pow 2 (-exponent).toNat)
        else none
      magnitude?.map fun magnitude => if negative then -(magnitude : Int) else magnitude
  | _ => none

def isFinite : Binary64 → Bool
  | .finite .. => true
  | _ => false

end Binary64

end NativeBoundary
