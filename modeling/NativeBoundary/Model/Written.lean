import NativeBoundary.Model.Basic

/-!
# Types in record forms

The types that the record form of a declaration holds, one for each place: the types of its fields
and arguments, the types of their defaults, and results. Only so many types may stand inside each
other there.
-/

namespace NativeBoundary.Model

/-- How deeply a type may be nested in the record form of a declaration. -/
def deepestWritten : Nat := Schema.deepestNesting - 1

def defaultType (default : Option Literal) : List Ty :=
  (default.bind Literal.type).toList

def Field.writtenTypes (field : Field) : List Ty :=
  field.type :: defaultType field.default

def Argument.writtenTypes (argument : Argument) : List Ty :=
  argument.type :: defaultType argument.default

def Record.writtenTypes (declared : Record) : List Ty :=
  declared.fields.flatMap Field.writtenTypes

def Union.writtenTypes (union : Union) : List Ty :=
  union.variants.flatMap fun variant => variant.fields.flatMap Field.writtenTypes

def Function.writtenTypes (function : Function) : List Ty :=
  function.arguments.flatMap Argument.writtenTypes ++ function.result.toList

def Constructor.writtenTypes (constructor : Constructor) : List Ty :=
  constructor.arguments.flatMap Argument.writtenTypes

def Method.writtenTypes (method : Method) : List Ty :=
  method.arguments.flatMap Argument.writtenTypes ++ method.result.toList

def Object.writtenTypes (object : Object) : List Ty :=
  object.constructors.flatMap Constructor.writtenTypes ++
    object.methods.flatMap Method.writtenTypes

def CallbackInterface.writtenTypes (callback : CallbackInterface) : List Ty :=
  callback.methods.flatMap Method.writtenTypes

end NativeBoundary.Model
