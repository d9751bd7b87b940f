import NativeBoundary.Model.Basic

/-!
# Declarations as JSON

The record forms of all declarations. What is derived from a declaration is read where it is given
but never written, so that the written form holds the declared interface and nothing else.
-/

namespace NativeBoundary.Model

open Schema (Reading record required defaulted optional list string boolean)

def typeJson (type : Option Ty) : Json :=
  Json.option Ty.toJson type

def defaultJson (default : Option Literal) : Json :=
  Json.option Literal.toJson default

namespace Field

def toJson (field : Field) : Json :=
  .object [("name", .string field.name), ("type", field.type.toJson),
    ("required", .bool field.required), ("default", defaultJson field.default)]

def read : Json → Reading Field :=
  record fun members =>
    mk <$> Schema.required "name" string members
      <*> Schema.required "type" Ty.readPart members
      <*> defaulted "required" false (boolean) members
      <*> Schema.optional "default" Literal.read members

end Field

namespace Variant

def toJson (variant : Variant) : Json :=
  .object [("name", .string variant.name), ("fields", Json.list Field.toJson variant.fields)]

def read : Json → Reading Variant :=
  record fun members =>
    mk <$> required "name" string members
      <*> defaulted "fields" [] (list Field.read) members

end Variant

namespace Argument

def toJson (argument : Argument) : Json :=
  .object [("name", .string argument.name), ("type", argument.type.toJson),
    ("by_ref", .bool argument.byRef), ("optional", .bool argument.optional),
    ("default", defaultJson argument.default)]

def read : Json → Reading Argument :=
  record fun members =>
    mk <$> required "name" string members
      <*> required "type" Ty.readPart members
      <*> defaulted "by_ref" false (boolean) members
      <*> defaulted "optional" false (boolean) members
      <*> Schema.optional "default" Literal.read members

end Argument

namespace Record

def toJson (declared : Record) : Json :=
  .object [("name", .string declared.name), ("fields", Json.list Field.toJson declared.fields)]

def read : Json → Reading Record :=
  record fun members =>
    mk <$> required "name" string members
      <*> defaulted "fields" [] (list Field.read) members

end Record

namespace Union

def toJson (union : Union) : Json :=
  .object [("name", .string union.name), ("variants", Json.list Variant.toJson union.variants)]

def read : Json → Reading Union :=
  record fun members =>
    mk <$> required "name" string members
      <*> defaulted "variants" [] (list Variant.read) members

end Union

namespace Function

def toJson (function : Function) : Json :=
  .object [("name", .string function.name),
    ("arguments", Json.list Argument.toJson function.arguments),
    ("return_type", typeJson function.result),
    ("attributes", Attribute.setToJson function.attributes)]

def read : Json → Reading Function :=
  record fun members =>
    mk <$> required "name" string members
      <*> defaulted "arguments" [] (list Argument.read) members
      <*> optional "return_type" Ty.readPart members
      <*> defaulted "attributes" [] Attribute.readSet members
      <*> optional "ffi_func" ForeignFunction.read members

end Function

namespace Constructor

def toJson (constructor : Constructor) : Json :=
  .object [("name", .string constructor.name),
    ("arguments", Json.list Argument.toJson constructor.arguments),
    ("attributes", Attribute.setToJson constructor.attributes)]

def read : Json → Reading Constructor :=
  record fun members =>
    mk <$> defaulted "name" primaryName string members
      <*> defaulted "arguments" [] (list Argument.read) members
      <*> defaulted "attributes" [] Attribute.readSet members
      <*> optional "ffi_func" ForeignFunction.read members

end Constructor

namespace Method

def toJson (method : Method) : Json :=
  .object [("name", .string method.name), ("object_name", .string method.owner),
    ("arguments", Json.list Argument.toJson method.arguments),
    ("return_type", typeJson method.result),
    ("attributes", Attribute.setToJson method.attributes)]

def read : Json → Reading Method :=
  record fun members =>
    mk <$> required "name" string members
      <*> required "object_name" string members
      <*> defaulted "arguments" [] (list Argument.read) members
      <*> optional "return_type" Ty.readPart members
      <*> defaulted "attributes" [] Attribute.readSet members
      <*> optional "ffi_func" ForeignFunction.read members

end Method

namespace Object

def toJson (object : Object) : Json :=
  .object [("name", .string object.name),
    ("constructors", Json.list Constructor.toJson object.constructors),
    ("methods", Json.list Method.toJson object.methods),
    ("uses_deprecated_threadsafe_attribute", .bool object.threadsafe)]

def read : Json → Reading Object :=
  record fun members =>
    mk <$> required "name" string members
      <*> defaulted "constructors" [] (list Constructor.read) members
      <*> defaulted "methods" [] (list Method.read) members
      <*> defaulted "uses_deprecated_threadsafe_attribute" false (boolean) members
      <*> optional "ffi_func_free" ForeignFunction.read members

end Object

namespace CallbackInterface

def toJson (callback : CallbackInterface) : Json :=
  .object [("name", .string callback.name),
    ("methods", Json.list Method.toJson callback.methods)]

def read : Json → Reading CallbackInterface :=
  record fun members =>
    mk <$> required "name" string members
      <*> defaulted "methods" [] (list Method.read) members
      <*> optional "ffi_init_callback" ForeignFunction.read members

end CallbackInterface

end NativeBoundary.Model
