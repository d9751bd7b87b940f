import NativeBoundary.Metadata.Basic
import NativeBoundary.Schema.Scalar

/-!
# Metadata as JSON

The record forms of metadata items. A collection of items is an array; an object is taken as the
list of its member names and a text as the list of its characters, neither of which is an item, and
any other value cannot be taken apart at all.
-/

namespace NativeBoundary.Metadata

open Schema (Reading record required defaulted list string boolean)

def textJson (text : Option String) : Json := Json.option .string text

namespace Slot

def toJson (slot : Slot) : Json :=
  .object [("name", .string slot.name), ("ty", .string slot.type)]

def read : Json → Reading Slot :=
  record fun members =>
    mk <$> required "name" string members <*> required "ty" string members

end Slot

namespace Variant

def toJson (variant : Variant) : Json :=
  .object [("name", .string variant.name), ("fields", Json.list Slot.toJson variant.fields)]

def read : Json → Reading Variant :=
  record fun members =>
    mk <$> required "name" string members
      <*> defaulted "fields" [] (list Slot.read) members

end Variant

def Function.toJson (item : Function) : Json :=
  .object [("kind", .string "fn"), ("module", .string item.crateModule),
    ("name", .string item.name), ("inputs", Json.list Slot.toJson item.inputs),
    ("output", textJson item.output), ("throws", textJson item.throws)]

def Function.read (members : Schema.Members) : Reading Function :=
  mk <$> required "module" string members
    <*> required "name" string members
    <*> defaulted "inputs" [] (list Slot.read) members
    <*> Schema.optional "output" string members
    <*> Schema.optional "throws" string members

def Method.toJson (item : Method) : Json :=
  .object [("kind", .string "method"), ("module", .string item.crateModule),
    ("self_name", .string item.owner), ("name", .string item.name),
    ("inputs", Json.list Slot.toJson item.inputs), ("output", textJson item.output),
    ("throws", textJson item.throws)]

def Method.read (members : Schema.Members) : Reading Method :=
  mk <$> required "module" string members
    <*> required "self_name" string members
    <*> required "name" string members
    <*> defaulted "inputs" [] (list Slot.read) members
    <*> Schema.optional "output" string members
    <*> Schema.optional "throws" string members

def Constructor.toJson (item : Constructor) : Json :=
  .object [("kind", .string "constructor"), ("module", .string item.crateModule),
    ("self_name", .string item.owner), ("name", .string item.name),
    ("inputs", Json.list Slot.toJson item.inputs), ("throws", textJson item.throws)]

def Constructor.read (members : Schema.Members) : Reading Constructor :=
  mk <$> required "module" string members
    <*> required "self_name" string members
    <*> defaulted "name" Model.primaryName string members
    <*> defaulted "inputs" [] (list Slot.read) members
    <*> Schema.optional "throws" string members

def Record.toJson (item : Record) : Json :=
  .object [("kind", .string "record"), ("module", .string item.crateModule),
    ("name", .string item.name), ("fields", Json.list Slot.toJson item.fields)]

def Record.read (members : Schema.Members) : Reading Record :=
  mk <$> required "module" string members
    <*> required "name" string members
    <*> defaulted "fields" [] (list Slot.read) members

def Enum.toJson (item : Enum) : Json :=
  .object [("kind", .string "enum"), ("module", .string item.crateModule),
    ("name", .string item.name), ("variants", Json.list Variant.toJson item.variants)]

def Enum.read (members : Schema.Members) : Reading Enum :=
  mk <$> required "module" string members
    <*> required "name" string members
    <*> defaulted "variants" [] (list Variant.read) members

def Error.toJson (item : Error) : Json :=
  .object [("kind", .string "error"), ("module", .string item.crateModule),
    ("name", .string item.name), ("variants", Json.list Variant.toJson item.variants),
    ("flat", .bool item.flat)]

def Error.read (members : Schema.Members) : Reading Error :=
  mk <$> required "module" string members
    <*> required "name" string members
    <*> defaulted "variants" [] (list Variant.read) members
    <*> defaulted "flat" true (boolean) members

def Object.toJson (item : Object) : Json :=
  .object [("kind", .string "object"), ("module", .string item.crateModule),
    ("name", .string item.name)]

def Object.read (members : Schema.Members) : Reading Object :=
  mk <$> required "module" string members <*> required "name" string members

namespace Item

def toJson : Item → Json
  | .function item => item.toJson
  | .method item => item.toJson
  | .constructor item => item.toJson
  | .record item => item.toJson
  | .enum item => item.toJson
  | .error item => item.toJson
  | .object item => item.toJson

/-- The reader for each word that can stand as the kind of an item. -/
def reader? : String → Option (Schema.Members → Reading Item)
  | "fn" => some fun members => Item.function <$> Function.read members
  | "method" => some fun members => Item.method <$> Method.read members
  | "constructor" => some fun members => Item.constructor <$> Constructor.read members
  | "record" => some fun members => Item.record <$> Record.read members
  | "enum" => some fun members => Item.enum <$> Enum.read members
  | "error" => some fun members => Item.error <$> Error.read members
  | "object" => some fun members => Item.object <$> Object.read members
  | _ => none

def read : Json → Reading Item :=
  Schema.tagged .notItem reader?

end Item

/-- Why a value is no collection of items. -/
inductive Fault where
  | notCollection
  | issues (issues : List Schema.Issue)
  deriving DecidableEq, Repr

/-- The parts that a value is taken apart into, if it is a collection. -/
def parts? : Json → Option (List Json)
  | .array items => some items
  | .object members => some (members.map fun member => .string member.1)
  | .string text => some (text.toList.map fun c => .string (String.singleton c))
  | _ => none

def readItems (json : Json) : Except Fault (List Item) :=
  match parts? json with
  | none => .error .notCollection
  | some parts =>
      match Schema.items Item.read 0 parts with
      | .value items => .ok items
      | .refused issues => .error (.issues issues)

namespace Group

def toJson (group : Group) : Json :=
  .object [("namespace", textJson group.crate), ("empty", .bool group.isEmpty),
    ("records", Json.list Record.toJson group.records),
    ("enums", Json.list Enum.toJson group.enums),
    ("errors", Json.list Error.toJson group.errors),
    ("objects", Json.list Object.toJson group.objects),
    ("functions", Json.list Function.toJson group.functions),
    ("constructors", Json.list Constructor.toJson group.constructors),
    ("methods", Json.list Method.toJson group.methods)]

end Group

end NativeBoundary.Metadata
