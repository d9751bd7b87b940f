/-!
# Halves of surrogate pairs

Escaped UTF-16 units can put half of a surrogate pair into a text, and no character is such a half.
It is kept as a stand-in, a private use character at a fixed distance above it. A character that is
itself in the place of a stand-in is kept as the stand-ins of the two halves that make it up, so
that two texts are kept alike only if they are the same. `points` gives back the code points, lone
halves among them; stand-ins of two halves that make up any other character are two lone halves.
-/

namespace NativeBoundary.Text.Surrogate

def isLeading (unit : Nat) : Bool := 0xD800 ≤ unit && unit < 0xDC00

def isTrailing (unit : Nat) : Bool := 0xDC00 ≤ unit && unit < 0xE000

def isHalf (unit : Nat) : Bool := isLeading unit || isTrailing unit

def pairValue (leading trailing : Nat) : Nat :=
  0x10000 + (leading - 0xD800) * 0x400 + (trailing - 0xDC00)

/-- The two halves of a code point above U+FFFF. -/
def halves (point : Nat) : Nat × Nat :=
  (0xD800 + (point - 0x10000) / 0x400, 0xDC00 + (point - 0x10000) % 0x400)

def distance : Nat := 0x100000

def standIn (unit : Nat) : Char := Char.ofNat (unit + distance)

def isStandIn (c : Char) : Bool := distance ≤ c.toNat && isHalf (c.toNat - distance)

/-- The unit for which a character stands, its own code point unless it is a stand-in. -/
def unitOf (c : Char) : Nat := if isStandIn c then c.toNat - distance else c.toNat

/-- A character in the form in which texts keep it. -/
def kept (c : Char) : List Char :=
  if isStandIn c then
    let (leading, trailing) := halves c.toNat
    [standIn leading, standIn trailing]
  else [c]

def keptText (text : String) : String := String.ofList (text.toList.flatMap kept)

/-- The two characters are what a character in the place of a stand-in is kept as. -/
def isKeptPair (first second : Char) : Bool :=
  isStandIn first && isStandIn second && isLeading (unitOf first) && isTrailing (unitOf second) &&
    isStandIn (Char.ofNat (pairValue (unitOf first) (unitOf second)))

/-- The code points of a kept text. -/
def points : List Char → List Nat
  | first :: second :: rest =>
      if isKeptPair first second then pairValue (unitOf first) (unitOf second) :: points rest
      else unitOf first :: points (second :: rest)
  | [c] => [unitOf c]
  | [] => []

/-- Whether no half stands alone. -/
def isWhole (text : List Char) : Bool := (points text).all (!isHalf ·)

/-- The text with characters for all code points. A lone half remains a stand-in. -/
def spelled (text : List Char) : List Char :=
  (points text).map fun point => if isHalf point then standIn point else Char.ofNat point

/-- The text with one and the same half in the place of each lone half, so that no two of them make
a pair if what stands between them is taken away. -/
def parted (text : List Char) : List Char :=
  (points text).flatMap fun point =>
    if isHalf point then [standIn 0xD800] else kept (Char.ofNat point)

theorem unitOf_eq_toNat {c : Char} (ordinary : isStandIn c = false) : unitOf c = c.toNat := by
  simp [unitOf, ordinary]

theorem kept_eq_self {c : Char} (ordinary : isStandIn c = false) : kept c = [c] := by
  simp [kept, ordinary]

theorem points_eq_map {text : List Char} (ordinary : ∀ c ∈ text, isStandIn c = false) :
    points text = text.map Char.toNat := by
  fun_induction points text with
  | case1 first second rest paired ih => simp [isKeptPair, ordinary first] at paired
  | case2 first second rest _ ih =>
      rw [ih fun c member => ordinary c (List.mem_cons_of_mem first member)]
      simp [unitOf_eq_toNat (ordinary first List.mem_cons_self)]
  | case3 c => simp [unitOf_eq_toNat (ordinary c List.mem_cons_self)]
  | case4 => rfl

end NativeBoundary.Text.Surrogate
