import NativeBoundary.Json.Basic
import NativeBoundary.Number.Shortest
import NativeBoundary.Order.Insertion
import NativeBoundary.Text.Numeral
import NativeBoundary.Text.Quoted

/-!
# Canonical JSON text

The members of an object are sorted by name, nothing is written between tokens, and every
character outside the printable ASCII range is written as one or two escaped UTF-16 units. Two
values that differ only in the order of members have the same text. A value that holds a whole
number of too many digits, or that is nested too deeply, is not written.
-/

namespace NativeBoundary.Json

/-- A character as UTF-16 units: the half for which it stands, else a pair of surrogates above
U+FFFF. -/
def units (c : Char) : List Nat :=
  if Text.Surrogate.isStandIn c then [Text.Surrogate.unitOf c]
  else if c.toNat < 0x10000 then [c.toNat]
  else
    let (leading, trailing) := Text.Surrogate.halves c.toNat
    [leading, trailing]

def escaped (c : Char) : List Char :=
  if c = '"' then ['\\', '"']
  else if c = '\\' then ['\\', '\\']
  else if c = '\n' then ['\\', 'n']
  else if c = '\r' then ['\\', 'r']
  else if c = '\t' then ['\\', 't']
  else if c.toNat = 8 then ['\\', 'b']
  else if c.toNat = 12 then ['\\', 'f']
  else if 32 ≤ c.toNat ∧ c.toNat ≤ 126 then [c]
  else (units c).flatMap fun unit => '\\' :: 'u' :: Text.hexDigits 4 unit

def stringText (text : String) : List Char :=
  '"' :: text.toList.flatMap escaped ++ ['"']

def integerText (value : Int) : List Char :=
  if value < 0 then '-' :: Nat.toDigits 10 value.natAbs else Nat.toDigits 10 value.natAbs

def commaSeparated : List (List Char) → List Char
  | [] => []
  | [text] => text
  | text :: rest => text ++ ',' :: commaSeparated rest

def sortByName {α : Type} (members : List (String × α)) : List (String × α) :=
  Order.sort (fun first second => Order.before first.1 second.1) members

def memberText (member : String × List Char) : List Char :=
  stringText member.1 ++ ':' :: member.2

mutual

def canonical : Json → List Char
  | .null => ['n', 'u', 'l', 'l']
  | .bool true => ['t', 'r', 'u', 'e']
  | .bool false => ['f', 'a', 'l', 's', 'e']
  | .integer value => integerText value
  | .decimal value => value.text
  | .string value => stringText value
  | .array items => '[' :: commaSeparated (canonicalItems items) ++ [']']
  | .object members =>
      '{' :: commaSeparated ((sortByName (canonicalMembers members)).map memberText) ++ ['}']

def canonicalItems : List Json → List (List Char)
  | [] => []
  | item :: rest => canonical item :: canonicalItems rest

def canonicalMembers : List (String × Json) → List (String × List Char)
  | [] => []
  | (name, value) :: rest => (name, canonical value) :: canonicalMembers rest

end

def canonicalString (value : Json) : String :=
  String.ofList value.canonical

mutual

/-- The canonical text of a value, if it is written where so many arrays and objects may stand
inside each other. -/
def canonicalText? (room : Nat) : Json → Option (List Char)
  | .null => some ['n', 'u', 'l', 'l']
  | .bool true => some ['t', 'r', 'u', 'e']
  | .bool false => some ['f', 'a', 'l', 's', 'e']
  | .integer value => if Text.Numeral.isWritten value then some (integerText value) else none
  | .decimal value => some value.text
  | .string value => some (stringText value)
  | .array items =>
      match room with
      | 0 => none
      | left + 1 => (canonicalTexts? left items).map fun texts =>
          '[' :: commaSeparated texts ++ [']']
  | .object members =>
      match room with
      | 0 => none
      | left + 1 => (canonicalMemberTexts? left members).map fun texts =>
          '{' :: commaSeparated ((sortByName texts).map memberText) ++ ['}']

def canonicalTexts? (room : Nat) : List Json → Option (List (List Char))
  | [] => some []
  | item :: rest => do
      let text ← canonicalText? room item
      let texts ← canonicalTexts? room rest
      some (text :: texts)

def canonicalMemberTexts? (room : Nat) : List (String × Json) → Option (List (String × List Char))
  | [] => some []
  | (name, value) :: rest => do
      let text ← canonicalText? room value
      let texts ← canonicalMemberTexts? room rest
      some ((name, text) :: texts)

end

theorem canonicalItems_eq_map (items : List Json) : canonicalItems items = items.map canonical := by
  induction items with
  | nil => rfl
  | cons item rest ih => simp [canonicalItems, ih]

theorem canonicalMembers_eq_map (members : List (String × Json)) :
    canonicalMembers members = members.map fun member => (member.1, canonical member.2) := by
  induction members with
  | nil => rfl
  | cons member rest ih => simp [canonicalMembers, ih]

end NativeBoundary.Json
