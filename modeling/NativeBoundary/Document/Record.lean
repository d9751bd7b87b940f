import NativeBoundary.Document.Basic
import NativeBoundary.Json.Reader

/-!
# Documents as JSON

The record forms of a document and its nodes, and reading them back. The member `kind` of a
declaration tells the six kinds apart. A text is refused with the list of its issues; one that is
not JSON has a single issue at its root.
-/

namespace NativeBoundary.Document

open Schema (Reading record required defaulted list string boolean)

def attributesJson (attributes : Option (List AttributeNode)) : Json :=
  Json.option (Json.list AttributeNode.toJson) attributes

def locationJson (location : Option Location) : Json :=
  Json.option Location.toJson location

def readAttributes : Schema.Members → Reading (Option (List AttributeNode)) :=
  Schema.optional "attributes" (list AttributeNode.read)

def readLocation : Schema.Members → Reading (Option Location) :=
  Schema.optional "location" Location.read

namespace Argument

def toJson (argument : Argument) : Json :=
  .object [("name", .string argument.name), ("type", argument.type.toJson),
    ("optional", .bool argument.optional),
    ("default", Json.option DefaultNode.toJson argument.default),
    ("attributes", attributesJson argument.attributes),
    ("location", locationJson argument.location)]

def read : Json → Reading Argument :=
  record fun members =>
    mk <$> required "name" string members
      <*> required "type" TypeExpr.read members
      <*> defaulted "optional" false (boolean) members
      <*> Schema.optional "default" DefaultNode.read members
      <*> readAttributes members
      <*> readLocation members

end Argument

namespace Operation

def toJson (operation : Operation) : Json :=
  .object [("name", .string operation.name),
    ("arguments", Json.list Argument.toJson operation.arguments),
    ("return_type", Json.option TypeExpr.toJson operation.result),
    ("attributes", attributesJson operation.attributes),
    ("location", locationJson operation.location)]

def read : Json → Reading Operation :=
  record fun members =>
    mk <$> required "name" string members
      <*> defaulted "arguments" [] (list Argument.read) members
      <*> Schema.optional "return_type" TypeExpr.read members
      <*> readAttributes members
      <*> readLocation members

end Operation

namespace Constructor

def toJson (constructor : Constructor) : Json :=
  .object [("arguments", Json.list Argument.toJson constructor.arguments),
    ("attributes", attributesJson constructor.attributes),
    ("location", locationJson constructor.location)]

def read : Json → Reading Constructor :=
  record fun members =>
    mk <$> defaulted "arguments" [] (list Argument.read) members
      <*> readAttributes members
      <*> readLocation members

end Constructor

namespace Member

def toJson (member : Member) : Json :=
  .object [("name", .string member.name), ("type", member.type.toJson),
    ("required", .bool member.required),
    ("default", Json.option DefaultNode.toJson member.default),
    ("attributes", attributesJson member.attributes),
    ("location", locationJson member.location)]

def read : Json → Reading Member :=
  record fun members =>
    mk <$> Schema.required "name" string members
      <*> Schema.required "type" TypeExpr.read members
      <*> defaulted "required" false (boolean) members
      <*> Schema.optional "default" DefaultNode.read members
      <*> readAttributes members
      <*> readLocation members

end Member

namespace Body

def kindName : Body → String
  | .space _ => "namespace"
  | .dictionary _ => "dictionary"
  | .enum _ => "enum"
  | .interface .. => "interface"
  | .callbackInterface _ => "callback_interface"
  | .typedef _ => "typedef"

def membersJson : Body → List (String × Json)
  | .space functions => [("functions", Json.list Operation.toJson functions)]
  | .dictionary members => [("members", Json.list Member.toJson members)]
  | .enum values => [("values", Json.list .string values)]
  | .interface constructors operations =>
      [("constructors", Json.list Constructor.toJson constructors),
        ("operations", Json.list Operation.toJson operations)]
  | .callbackInterface operations => [("operations", Json.list Operation.toJson operations)]
  | .typedef typeName => [("type_name", .string typeName)]

/-- The reader of the body for each word that can stand as the kind of a declaration. -/
def reader? : String → Option (Schema.Members → Reading Body)
  | "namespace" => some fun members =>
      Body.space <$> defaulted "functions" [] (list Operation.read) members
  | "dictionary" => some fun members =>
      Body.dictionary <$> defaulted "members" [] (list Member.read) members
  | "enum" => some fun members =>
      Body.enum <$> defaulted "values" [] (list string) members
  | "interface" => some fun members =>
      Body.interface <$> defaulted "constructors" [] (list Constructor.read) members
        <*> defaulted "operations" [] (list Operation.read) members
  | "callback_interface" => some fun members =>
      Body.callbackInterface <$> defaulted "operations" [] (list Operation.read) members
  | "typedef" => some fun members =>
      Body.typedef <$> defaulted "type_name" externalTypeName string members
  | _ => none

end Body

namespace Declaration

def toJson (declaration : Declaration) : Json :=
  .object ([("kind", .string declaration.body.kindName), ("name", .string declaration.name)] ++
    declaration.body.membersJson ++
    [("attributes", attributesJson declaration.attributes),
      ("location", locationJson declaration.location)])

def read : Json → Reading Declaration :=
  Schema.tagged .notMapping fun kind => (Body.reader? kind).map fun readBody members =>
    mk <$> required "name" string members <*> readBody members <*> readAttributes members
      <*> readLocation members

end Declaration

def toJson (document : Document) : Json :=
  .object [("file", Json.option .string document.file),
    ("definitions", Json.list Declaration.toJson document.definitions)]

def read : Json → Reading Document :=
  record fun members =>
    mk <$> Schema.optional "file" string members
      <*> defaulted "definitions" [] (list Declaration.read) members

/-- The document that a text holds. -/
def load (text : String) : Except (List Schema.Issue) Document :=
  match Json.read .document text with
  | .error _ => .error [⟨.invalidText, []⟩]
  | .ok json => (read json).toExcept

end NativeBoundary.Document
