import NativeBoundary.Json.Basic
import NativeBoundary.Text.Surrogate

/-!
# Reading JSON text

The grammar of RFC 8259 and, as values, the bare words `NaN`, `Infinity` and `-Infinity`. A string
holds no raw control character. A name that occurs again in an object replaces the earlier value.
`read` accepts a text that is one value between white space and keeps to given limits: how deeply
values may nest, how long a number may be, and whether an escaped surrogate may stand alone.
-/

namespace NativeBoundary.Json

open Text

def isSpace (c : Char) : Bool :=
  c = ' ' || c = '\n' || c = '\r' || c = '\t'

def skipSpace (text : List Char) : List Char :=
  text.dropWhile isSpace

def dropWord : List Char → List Char → Option (List Char)
  | [], text => some text
  | _ :: _, [] => none
  | expected :: word, c :: text => if c = expected then dropWord word text else none

def hexValue? (c : Char) : Option Nat :=
  if '0' ≤ c ∧ c ≤ '9' then some (c.toNat - 48)
  else if 'a' ≤ c ∧ c ≤ 'f' then some (c.toNat - 87)
  else if 'A' ≤ c ∧ c ≤ 'F' then some (c.toNat - 55)
  else none

def unit? (a b c d : Char) : Option Nat := do
  let first ← hexValue? a
  let second ← hexValue? b
  let third ← hexValue? c
  let fourth ← hexValue? d
  some (((first * 16 + second) * 16 + third) * 16 + fourth)

def simpleEscape? : Char → Option Char
  | '"' => some '"'
  | '\\' => some '\\'
  | '/' => some '/'
  | 'b' => some (Char.ofNat 8)
  | 'f' => some (Char.ofNat 12)
  | 'n' => some '\n'
  | 'r' => some '\r'
  | 't' => some '\t'
  | _ => none

/-- The characters of a string up to its closing quote, and the text behind the quote. -/
def stringBody (halvesAllowed : Bool) : List Char → Option (List Char × List Char)
  | [] => none
  | '"' :: rest => some ([], rest)
  | '\\' :: 'u' :: a :: b :: c :: d :: rest => do
      let first ← unit? a b c d
      let paired :=
        match rest with
        | '\\' :: 'u' :: e :: f :: g :: h :: _ => (unit? e f g h).filter Surrogate.isTrailing
        | _ => none
      match Surrogate.isLeading first, paired with
      | true, some second =>
          let (body, after) ← stringBody halvesAllowed (rest.drop 6)
          some (Surrogate.kept (Char.ofNat (Surrogate.pairValue first second)) ++ body, after)
      | _, _ =>
          let alone := Surrogate.isHalf first
          if alone && !halvesAllowed then none
          else
            let (body, after) ← stringBody halvesAllowed rest
            some ((if alone then Surrogate.standIn first else Char.ofNat first) :: body, after)
  | '\\' :: c :: rest => do
      let character ← simpleEscape? c
      let (body, after) ← stringBody halvesAllowed rest
      some (character :: body, after)
  | c :: rest =>
      if c.toNat < 32 || c = '\\' then none
      else do
        let (body, after) ← stringBody halvesAllowed rest
        some (c :: body, after)
termination_by text => text.length
decreasing_by all_goals simp only [List.length_drop, List.length_cons]; omega

def digitsValue (digits : List Char) : Nat :=
  digits.foldl (fun total c => total * 10 + (c.toNat - 48)) 0

def spanDigits (text : List Char) : List Char × List Char :=
  (text.takeWhile Char.isDigit, text.dropWhile Char.isDigit)

/-- The digits behind a point, if a point with at least one digit comes next. -/
def fractionPart : List Char → Option (List Char) × List Char
  | '.' :: rest =>
      let (digits, after) := spanDigits rest
      if digits.isEmpty then (none, '.' :: rest) else (some digits, after)
  | text => (none, text)

def splitExponentSign : List Char → Bool × List Char
  | '-' :: digits => (true, digits)
  | '+' :: digits => (false, digits)
  | digits => (false, digits)

/-- The exponent, if a mark, a sign or none, and at least one digit come next. -/
def exponentPart : List Char → Option Int × List Char
  | mark :: rest =>
      let (negative, unsigned) := splitExponentSign rest
      let (digits, after) := spanDigits unsigned
      let magnitude : Int := digitsValue digits
      if (mark = 'e' || mark = 'E') && !digits.isEmpty then
        (some (if negative then -magnitude else magnitude), after)
      else (none, mark :: rest)
  | [] => (none, [])

inductive Fault where
  | malformed
  | tooDeep
  | longNumeral (digits : Nat)
  deriving DecidableEq, Repr

structure Limits where
  /-- How many arrays and objects may stand inside each other. -/
  nesting : Nat
  /-- Whether an array or object without parts counts as one level of nesting. -/
  countsEmpty : Bool
  /-- Whether a number is short enough: the count of digits in front of its point, and whether a
  fraction or an exponent follows them. -/
  admits : (digits : Nat) → (fractional : Bool) → Bool
  halvesAllowed : Bool

namespace Limits

def longestNumeral : Nat := 4300

def document : Limits where
  nesting := 200
  countsEmpty := false
  admits digits _ := digits ≤ longestNumeral
  halvesAllowed := false

/-- The limits on collected data: only a whole number can be too long. -/
def collection : Limits where
  nesting := 940
  countsEmpty := true
  admits digits fractional := fractional || digits ≤ longestNumeral
  halvesAllowed := true

end Limits

/-- The digits in front of a point; a leading zero stands alone. -/
def wholePart : List Char → List Char × List Char
  | '0' :: rest => (['0'], rest)
  | text => spanDigits text

/-- A number behind its sign. -/
def numberBody (limits : Limits) (negative : Bool) (text : List Char) :
    Except Fault (Json × List Char) :=
  let (whole, afterWhole) := wholePart text
  let (fraction?, afterFraction) := fractionPart afterWhole
  let (exponent?, after) := exponentPart afterFraction
  if whole.isEmpty then .error .malformed
  else if !limits.admits whole.length (fraction?.isSome || exponent?.isSome) then
    .error (.longNumeral whole.length)
  else
    match fraction?, exponent? with
    | none, none =>
        let magnitude : Int := digitsValue whole
        .ok (.integer (if negative then -magnitude else magnitude), after)
    | _, _ =>
        let fraction := fraction?.getD []
        .ok (.decimal (Binary64.ofDecimal negative (digitsValue (whole ++ fraction))
          (exponent?.getD 0 - fraction.length)), after)

/-- What a part of the grammar yields, or the fault of a text that does not have it. -/
def orMalformed {α : Type} (found : Option α) : Except Fault α :=
  match found with
  | some result => .ok result
  | none => .error .malformed

/-- An array or object without parts, in the room that is left for nesting. -/
def withoutParts (limits : Limits) (room : Nat) (value : Json) (after : List Char) :
    Except Fault (Json × List Char) :=
  if limits.countsEmpty && room == 0 then .error .tooDeep else .ok (value, after)

mutual

/-- One value and the text behind it. The first number bounds the steps, the second the nesting
that is left. -/
def value (limits : Limits) : Nat → Nat → List Char → Except Fault (Json × List Char)
  | 0, _, _ => .error .malformed
  | bound + 1, room, text =>
      let word (rest letters : List Char) (value : Json) : Except Fault (Json × List Char) :=
        orMalformed ((dropWord letters rest).map (value, ·))
      match text with
      | 'n' :: rest => word rest "ull".toList .null
      | 't' :: rest => word rest "rue".toList (.bool true)
      | 'f' :: rest => word rest "alse".toList (.bool false)
      | 'N' :: rest => word rest "aN".toList (.decimal .notANumber)
      | 'I' :: rest => word rest "nfinity".toList (.decimal (.infinite false))
      | '-' :: 'I' :: rest => word rest "nfinity".toList (.decimal (.infinite true))
      | '-' :: rest => numberBody limits true rest
      | '"' :: rest => do
          let (body, after) ← orMalformed (stringBody limits.halvesAllowed rest)
          .ok (.string (String.ofList body), after)
      | '[' :: rest =>
          match skipSpace rest, room with
          | ']' :: after, _ => withoutParts limits room (.array []) after
          | _, 0 => .error .tooDeep
          | inner, left + 1 => do
              let (found, after) ← items limits bound left inner
              .ok (.array found, after)
      | '{' :: rest =>
          match skipSpace rest, room with
          | '}' :: after, _ => withoutParts limits room (.object []) after
          | _, 0 => .error .tooDeep
          | inner, left + 1 => do
              let (found, after) ← members limits bound left inner
              .ok (.object (found.foldl (fun done member => put member.1 member.2 done) []), after)
      | _ => numberBody limits false text

/-- The items of an array up to its bracket; at least one. -/
def items (limits : Limits) : Nat → Nat → List Char → Except Fault (List Json × List Char)
  | 0, _, _ => .error .malformed
  | bound + 1, room, text => do
      let (item, after) ← value limits bound room text
      match skipSpace after with
      | ']' :: rest => .ok ([item], rest)
      | ',' :: rest =>
          let (others, behind) ← items limits bound room (skipSpace rest)
          .ok (item :: others, behind)
      | _ => .error .malformed

/-- The members of an object up to its brace; at least one. -/
def members (limits : Limits) :
    Nat → Nat → List Char → Except Fault (List (String × Json) × List Char)
  | 0, _, _ => .error .malformed
  | bound + 1, room, text => do
      let inner ← orMalformed (dropWord ['"'] text)
      let (name, afterName) ← orMalformed (stringBody limits.halvesAllowed inner)
      let afterColon ← orMalformed (dropWord [':'] (skipSpace afterName))
      let (item, after) ← value limits bound room (skipSpace afterColon)
      match skipSpace after with
      | '}' :: rest => .ok ([(String.ofList name, item)], rest)
      | ',' :: rest =>
          let (others, behind) ← members limits bound room (skipSpace rest)
          .ok ((String.ofList name, item) :: others, behind)
      | _ => .error .malformed

end

def read (limits : Limits) (text : String) : Except Fault Json := do
  let characters := text.toList
  let (result, after) ← value limits (characters.length + 1) limits.nesting (skipSpace characters)
  if (skipSpace after).isEmpty then .ok result else .error .malformed

end NativeBoundary.Json
