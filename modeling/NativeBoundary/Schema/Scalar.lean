import NativeBoundary.Json.Reader
import NativeBoundary.Schema.Reading
import NativeBoundary.Text.Numeral

/-!
# Scalars read leniently

A truth value may also be written as the number zero or one or as one of a few words, and a whole
number as a truth value, as a number without a fraction, or as a decimal text. A number that is
given with a fraction must be a machine word if it is whole, and a text must not be too long. A
text that is neither a word nor a number may be refused for a lone half of a surrogate pair.
-/

namespace NativeBoundary.Schema

def string : Json → Reading String
  | .string text => .value text
  | _ => refuse .notString

/-- Refuses a text, whatever it was to be if a half of a surrogate pair stands alone in it. -/
def refuseText {α : Type} (mismatch : Mismatch) (text : String) : Reading α :=
  refuse (if Text.Surrogate.isWhole text.toList then mismatch else .halfPair)

def trueWords : List String := ["1", "t", "y", "yes", "on", "true"]

def falseWords : List String := ["0", "f", "n", "no", "off", "false"]

/-- The machine word that a number with a fraction or an exponent is, if it is one. -/
def word? (number : Binary64) : Option Int :=
  number.whole?.filter fun whole => -Int.pow 2 63 < whole && whole < Int.pow 2 63

def isWord (number : Int) : Bool := -Int.pow 2 63 ≤ number && number < Int.pow 2 63

/-- Zero and one are truth values and no other machine word is; a larger number is not even like
one. -/
def truthOf (number : Int) : Reading Bool :=
  if number = 0 then .value false
  else if number = 1 then .value true
  else refuse (if isWord number then .boolUnreadable else .notBool)

def boolean : Json → Reading Bool
  | .bool value => .value value
  | .integer number => truthOf number
  | .decimal number =>
      match word? number with
      | some whole => truthOf whole
      | none => refuse .notBool
  | .string text =>
      let word := text.map Char.toLower
      if trueWords.contains word then .value true
      else if falseWords.contains word then .value false
      else refuseText .boolUnreadable text
  | _ => refuse .notBool

/-- Drops zeros and underscores from the front of a numeral that starts with a zero, but keeps the
last character in front of a point or the end. Behind them only a minus, a point or another digit
may follow. -/
def dropZeros : List Char → Option (List Char)
  | '0' :: rest => go '0' rest
  | c :: rest => if c = '-' || c.isDigit then some (c :: rest) else none
  | [] => none
where
  go (last : Char) : List Char → Option (List Char)
    | [] => some [last]
    | '.' :: rest => some (last :: '.' :: rest)
    | c :: rest =>
        if c = '0' || c = '_' then go c rest
        else if c = '-' || c.isDigit then some (c :: rest)
        else none

/-- Drops a fraction that consists of zeros. -/
def dropFraction (text : List Char) : List Char :=
  match text.dropWhile (· ≠ '.') with
  | '.' :: zeros =>
      if !zeros.isEmpty && zeros.all (· = '0') then text.takeWhile (· ≠ '.') else text
  | _ => text

def hasPairedUnderscores : List Char → Bool
  | '_' :: '_' :: _ => true
  | _ :: rest => hasPairedUnderscores rest
  | [] => false

/-- Drops underscores, none of which may stand beside another or at an end. -/
def dropUnderscores (text : List Char) : List Char :=
  if text.head? = some '_' || text.getLast? = some '_' || hasPairedUnderscores text then text
  else text.filter (· ≠ '_')

/-- What is left of a numeral without sign, once zeros and underscores that say nothing are gone. -/
def bareDigits (text : List Char) : Option (List Char) :=
  (dropZeros text).map fun digits => dropUnderscores (dropFraction digits)

/-- A minus is kept in front of the digits; a plus is dropped, and no minus may follow it. -/
def tidied (text : List Char) : Option (List Char) :=
  match text with
  | '+' :: '-' :: _ => none
  | '+' :: rest => bareDigits rest
  | '-' :: rest => (bareDigits rest).map ('-' :: ·)
  | rest => bareDigits rest

/-- A minus or none and digits without a leading zero. -/
def plainWhole (text : List Char) : Except Mismatch Int :=
  let (negative, unsigned) :=
    match text with
    | '-' :: rest => (true, rest)
    | rest => (false, rest)
  let (digits, after) := Json.wholePart unsigned
  let magnitude : Int := Json.digitsValue digits
  if Json.Limits.longestNumeral < digits.length then .error .intTooLong
  else if digits.isEmpty || !after.isEmpty then .error .intUnreadable
  else .ok (if negative then -magnitude else magnitude)

/-- A whole number in a text: spacing around it, a sign or none, zeros in front, single underscores
between digits, and at most a fraction of zeros. Only a text that is tidy as it stands can be said
to be too long. -/
def wholeText (text : List Char) : Except Mismatch Int :=
  match plainWhole text with
  | .ok number => .ok number
  | .error .intTooLong => .error .intTooLong
  | .error _ =>
      match (tidied (Text.trim Text.isSpacing text)).map plainWhole with
      | some (.ok number) => .ok number
      | _ => .error .intUnreadable

def integer : Json → Reading Int
  | .integer number => .value number
  | .bool value => .value (if value then 1 else 0)
  | .decimal number =>
      match number.whole?, word? number with
      | _, some whole => .value whole
      | some _, none => refuse .intTooLong
      | none, none => refuse (if number.isFinite then .intFromFraction else .notFinite)
  | .string text =>
      match wholeText text.toList with
      | .ok number => .value number
      | .error mismatch => refuseText mismatch text
  | _ => refuse .notInt

variable {α : Type}

/-- One of a closed set of words. -/
def word (ofName? : String → Option α) : Json → Reading α
  | .string text =>
      match ofName? text with
      | some value => .value value
      | none => refuseText .notInEnumeration text
  | _ => refuse .notInEnumeration

@[simp] theorem string_string (text : String) : string (.string text) = .value text := rfl

@[simp] theorem boolean_bool (value : Bool) : boolean (.bool value) = .value value := rfl

@[simp] theorem integer_integer (number : Int) : integer (.integer number) = .value number := rfl

end NativeBoundary.Schema
