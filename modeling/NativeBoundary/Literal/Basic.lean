import NativeBoundary.Location
import NativeBoundary.Ty.Record

/-!
# Default values and literals

A default value is written as a text of some lexical kind. A literal is such a value after it was
checked against a type: it keeps the radix in which a whole number was written, and the written
text of a floating point number.
-/

namespace NativeBoundary

inductive DefaultKind where
  | boolean | integer | float | string | null | emptySequence | emptyMap | identifier
  deriving DecidableEq, Repr

namespace DefaultKind

def all : List DefaultKind :=
  [.boolean, .integer, .float, .string, .null, .emptySequence, .emptyMap, .identifier]

def name : DefaultKind → String
  | .boolean => "boolean"
  | .integer => "integer"
  | .float => "float"
  | .string => "string"
  | .null => "null"
  | .emptySequence => "empty_sequence"
  | .emptyMap => "empty_map"
  | .identifier => "identifier"

def ofName? (name : String) : Option DefaultKind :=
  all.find? fun kind => kind.name == name

end DefaultKind

structure DefaultNode where
  kind : DefaultKind
  text : String := ""
  location : Option Location := none
  deriving DecidableEq, Repr

namespace DefaultNode

def toJson (node : DefaultNode) : Json :=
  .object [("kind", .string node.kind.name), ("text", .string node.text),
    ("location", Json.option Location.toJson node.location)]

def read : Json → Schema.Reading DefaultNode :=
  Schema.record fun members =>
    mk <$> Schema.required "kind" (Schema.word DefaultKind.ofName?) members
      <*> Schema.defaulted "text" "" Schema.string members
      <*> Schema.optional "location" Location.read members

theorem read_toJson (node : DefaultNode) : read node.toJson = .value node := by
  obtain ⟨kind, text, location⟩ := node
  cases kind <;> cases location <;> rfl

end DefaultNode

inductive LiteralKind where
  | boolean | string | uint | int | float | enum | emptySequence | emptyMap | null
  deriving DecidableEq, Repr

namespace LiteralKind

def all : List LiteralKind :=
  [.boolean, .string, .uint, .int, .float, .enum, .emptySequence, .emptyMap, .null]

def name : LiteralKind → String
  | .boolean => "boolean"
  | .string => "string"
  | .uint => "uint"
  | .int => "int"
  | .float => "float"
  | .enum => "enum"
  | .emptySequence => "empty_sequence"
  | .emptyMap => "empty_map"
  | .null => "null"

def ofName? (name : String) : Option LiteralKind :=
  all.find? fun kind => kind.name == name

end LiteralKind

inductive Radix where
  | octal | decimal | hexadecimal
  deriving DecidableEq, Repr

namespace Radix

def base : Radix → Nat
  | .octal => 8
  | .decimal => 10
  | .hexadecimal => 16

def ofBase? (base : Int) : Option Radix :=
  if base = 8 then some .octal
  else if base = 10 then some .decimal
  else if base = 16 then some .hexadecimal
  else none

def read (json : Json) : Schema.Reading Radix :=
  match Schema.integer json with
  | .value base =>
      match ofBase? base with
      | some radix => .value radix
      | none => Schema.refuse .notInEnumeration
  | .refused _ => Schema.refuse .notInEnumeration

end Radix

inductive LiteralValue where
  | nothing
  | flag (value : Bool)
  | integer (value : Int)
  | text (value : String)
  deriving DecidableEq, Repr

namespace LiteralValue

/-- How a value is shown in a message, and the name by which it is looked up among variants. -/
def shown : LiteralValue → String
  | .nothing => "None"
  | .flag true => "True"
  | .flag false => "False"
  | .integer value => toString value
  | .text value => value

def toJson : LiteralValue → Json
  | .nothing => .null
  | .flag value => .bool value
  | .integer value => .integer value
  | .text value => .string value

/-- Keeps the kind of value that the JSON has; a number with a fraction or an exponent is taken as
a truth value before it is taken as a whole number. -/
def read : Json → Schema.Reading LiteralValue
  | .null => .value .nothing
  | .bool value => .value (.flag value)
  | .integer value => .value (.integer value)
  | .string value => .value (.text value)
  | other =>
      match Schema.boolean other, Schema.integer other with
      | .value value, _ => .value (.flag value)
      | _, .value value => .value (.integer value)
      | .refused first, .refused second =>
          let asFlag : Schema.Reading LiteralValue :=
            (Schema.Reading.refused first).under (.field "bool")
          let asInteger : Schema.Reading (LiteralValue → LiteralValue) :=
            (Schema.Reading.refused second).under (.field "int")
          let asText : Schema.Reading LiteralValue :=
            (Schema.refuse .notString).under (.field "str")
          (fun _ literal => literal) <$> asFlag <*> (asInteger <*> asText)

end LiteralValue

structure Literal where
  kind : LiteralKind
  value : LiteralValue := .nothing
  radix : Option Radix := none
  type : Option Ty := none
  deriving DecidableEq

namespace Literal

def toJson (literal : Literal) : Json :=
  .object [("kind", .string literal.kind.name), ("value", literal.value.toJson),
    ("radix", Json.option (fun radix => .integer radix.base) literal.radix),
    ("type", Json.option Ty.toJson literal.type)]

def read : Json → Schema.Reading Literal :=
  Schema.record fun members =>
    mk <$> Schema.required "kind" (Schema.word LiteralKind.ofName?) members
      <*> Schema.defaulted "value" .nothing LiteralValue.read members
      <*> Schema.optional "radix" Radix.read members
      <*> Schema.optional "type" Ty.readPart members

end Literal

end NativeBoundary
