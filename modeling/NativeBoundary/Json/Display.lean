import NativeBoundary.Json.Basic
import NativeBoundary.Number.Shortest
import NativeBoundary.Text.Numeral
import NativeBoundary.Text.Quoted

/-!
# JSON on display

How a value is shown in a message: texts in quotes, the three bare words capitalised, and the parts
of arrays and objects in their order with a space behind each comma and colon.
-/

namespace NativeBoundary

/-- Digits as in JSON text; infinities and no number are short words. -/
def Binary64.displayed : Binary64 → String
  | .notANumber => "nan"
  | .infinite negative => if negative then "-inf" else "inf"
  | number => String.ofList number.text

namespace Json

mutual

def displayed : Json → String
  | .null => "None"
  | .bool true => "True"
  | .bool false => "False"
  | .integer value => toString value
  | .decimal value => value.displayed
  | .string value => Text.quoted value
  | .array items => "[" ++ ", ".intercalate (displayedItems items) ++ "]"
  | .object members => "\x7b" ++ ", ".intercalate (displayedMembers members) ++ "\x7d"

def displayedItems : List Json → List String
  | [] => []
  | item :: rest => displayed item :: displayedItems rest

def displayedMembers : List (String × Json) → List String
  | [] => []
  | (name, value) :: rest =>
      (Text.quoted name ++ ": " ++ displayed value) :: displayedMembers rest

end

mutual

/-- Whether every whole number in a value is short enough to be shown. -/
def isWritten : Json → Bool
  | .integer value => Text.Numeral.isWritten value
  | .array items => areWritten items
  | .object members => areWrittenMembers members
  | _ => true

def areWritten : List Json → Bool
  | [] => true
  | item :: rest => isWritten item && areWritten rest

def areWrittenMembers : List (String × Json) → Bool
  | [] => true
  | (_, value) :: rest => isWritten value && areWrittenMembers rest

end

end Json

end NativeBoundary
