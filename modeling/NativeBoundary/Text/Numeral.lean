import NativeBoundary.Text.DecimalDigit

/-!
# Numerals in text

A whole numeral is spacing, one sign, a radix mark where the base has one, and a run of digits in
which single underscores may stand between two digits. A fractional numeral is only recognised,
never evaluated: decimal digits with a point and an exponent, or one of the words for infinity and
for no number.
-/

namespace NativeBoundary.Text.Numeral

/-- Digits with single underscores between them; nothing else may stand in the run. -/
def digitRun (base : Nat) : List Char → Option (List Nat)
  | [] => none
  | [c] => (digit? base c).map ([·])
  | c :: '_' :: rest => do
      let value ← digit? base c
      let values ← digitRun base rest
      some (value :: values)
  | c :: rest => do
      let value ← digit? base c
      let values ← digitRun base rest
      some (value :: values)

def valueOf (base : Nat) (digits : List Nat) : Nat :=
  digits.foldl (fun total digit => total * base + digit) 0

/-- Drops the radix mark of a base: a zero of any script, its letter, and one underscore if there
is one. -/
def dropMark (base : Nat) (text : List Char) : List Char :=
  let afterMark (rest : List Char) :=
    match rest with
    | '_' :: digits => digits
    | digits => digits
  match text with
  | zero :: mark :: rest =>
      let hexadecimal := base == 16 && (mark == 'x' || mark == 'X')
      let octal := base == 8 && (mark == 'o' || mark == 'O')
      if decimalDigit? zero == some 0 && (hexadecimal || octal) then afterMark rest else text
  | _ => text

def splitSign : List Char → Bool × List Char
  | '-' :: rest => (true, rest)
  | '+' :: rest => (false, rest)
  | text => (false, text)

/-- The longest decimal numeral that is read; the bases 8 and 16 have no limit. -/
def decimalDigitLimit : Nat := 4300

def tooLongText (digits : Nat) : String :=
  s!"Exceeds the limit ({decimalDigitLimit} digits) for integer string conversion: " ++
    s!"value has {digits} digits; use sys.set_int_max_str_digits() to increase the limit"

/-- What is said of a whole number that has too many digits to be written. -/
def unwrittenText : String :=
  s!"Exceeds the limit ({decimalDigitLimit} digits) for integer string conversion; " ++
    "use sys.set_int_max_str_digits() to increase the limit"

def isWritten (number : Int) : Bool := number.natAbs < Nat.pow 10 decimalDigitLimit

def whole? (base : Nat) (text : List Char) : Option Int := do
  let (negative, unsigned) := splitSign (trim isSpacing text)
  let digits ← digitRun base (dropMark base unsigned)
  if base == 10 && decimalDigitLimit < digits.length then none
  else
    let value : Int := valueOf base digits
    some (if negative then -value else value)

/-- Every underscore stands between two decimal digits. -/
def underscoresBetweenDigits : Option Char → List Char → Bool
  | _, [] => true
  | previous, '_' :: rest =>
      previous.any isDecimalDigit && rest.head?.any isDecimalDigit &&
        underscoresBetweenDigits (some '_') rest
  | _, c :: rest => underscoresBetweenDigits (some c) rest

def isExponent (text : List Char) : Bool :=
  match text with
  | [] => true
  | _ :: rest =>
      let digits := (splitSign rest).2
      !digits.isEmpty && digits.all isDecimalDigit

def isMantissa (text : List Char) : Bool :=
  let whole := text.takeWhile (· != '.')
  let part := (text.dropWhile (· != '.')).drop 1
  whole.all isDecimalDigit && part.all isDecimalDigit && !(whole.isEmpty && part.isEmpty)

def namedValues : List String := ["inf", "infinity", "nan"]

def isFractional (text : List Char) : Bool :=
  let trimmed := trim isSpacing text
  let unsigned := (splitSign trimmed).2
  let plain := unsigned.filter (· != '_')
  let isMark (c : Char) : Bool := c == 'e' || c == 'E'
  underscoresBetweenDigits none trimmed &&
    (namedValues.contains (String.ofList (plain.map Char.toLower)) ||
      (isMantissa (plain.takeWhile (!isMark ·)) && isExponent (plain.dropWhile (!isMark ·))))

end NativeBoundary.Text.Numeral
