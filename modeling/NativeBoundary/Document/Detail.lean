import NativeBoundary.Interface.Update
import NativeBoundary.Literal.Convert
import NativeBoundary.Registry.Discovery

/-!
# Detail

The declarations of a document turned into those of the interface. Attributes are checked before
types are resolved, and a default is converted at the resolved type. Member names of one
declaration must differ; constructors and methods of an object share one set of names.
-/

namespace NativeBoundary.Document

/-- The first name that occurs before in the list. -/
def firstRepeated : List String → List String → Option String
  | _, [] => none
  | seen, name :: rest => if name ∈ seen then some name else firstRepeated (name :: seen) rest

namespace Declaration

def ensureDistinct (kind : MemberKind) (names : List String) (declaration : Declaration) :
    Except Problem Unit :=
  match firstRepeated [] names with
  | none => .ok ()
  | some name =>
      .error ⟨.duplicateMember kind name declaration.name, some name, declaration.location⟩

end Declaration

def convertDefault (type : Ty) : Option DefaultNode → Except Problem (Option Literal)
  | none => .ok none
  | some node => do
      let literal ← node.convert type
      .ok (some literal)

def resolveResult : Option TypeExpr → Action Registry (Option Ty)
  | none => return none
  | some expr => do
      let type ← Registry.resolve expr
      return some type

def Argument.convert (argument : Argument) : Action Registry Model.Argument := do
  let attributes ← Action.lift
    (Site.argument.check (some argument.name) argument.location argument.attributes)
  let type ← Registry.resolve argument.type
  let default ← Action.lift (convertDefault type argument.default)
  return {
    name := argument.name
    type
    byRef := Attribute.has .byRef attributes
    optional := argument.optional
    default }

def Member.convert (member : Member) : Action Registry Model.Field := do
  let _ ← Action.lift (Site.field.check (some member.name) member.location member.attributes)
  let type ← Registry.resolve member.type
  let default ← Action.lift (convertDefault type member.default)
  return { name := member.name, type, required := member.required, default }

namespace Operation

def checkAttributes (site : Site) (operation : Operation) : Except Problem (List Attribute) :=
  site.check (some operation.name) operation.location operation.attributes

def toFunction (operation : Operation) : Action Registry Model.Function := do
  let attributes ← Action.lift (operation.checkAttributes .function)
  let arguments ← Action.each Argument.convert operation.arguments
  let result ← resolveResult operation.result
  return { name := operation.name, arguments, result, attributes }

def toMethod (owner : String) (operation : Operation) : Action Registry Model.Method := do
  let attributes ← Action.lift (operation.checkAttributes .method)
  let arguments ← Action.each Argument.convert operation.arguments
  let result ← resolveResult operation.result
  return { name := operation.name, owner, arguments, result, attributes }

/-- An argument of a variant is a field; only its name, type and optionality count. -/
def variantField (argument : Argument) : Action Registry Model.Field := do
  let type ← Registry.resolve argument.type
  return { name := argument.name, type, required := !argument.optional }

def toVariant (owner : String) (operation : Operation) : Action Registry Model.Variant := do
  if operation.result.isSome then
    Action.fail ⟨.variantWithResult owner operation.name, some owner, operation.location⟩
  let _ ← Action.lift (operation.checkAttributes .base)
  let fields ← Action.each variantField operation.arguments
  return { name := operation.name, fields }

end Operation

def Constructor.convert (constructor : Constructor) : Action Registry Model.Constructor := do
  let attributes ← Action.lift
    (Site.constructor.check none constructor.location constructor.attributes)
  let given := (Attribute.valueOf .name attributes).filter (· ≠ "")
  let arguments ← Action.each Argument.convert constructor.arguments
  return { name := given.getD Model.primaryName, arguments, attributes }

namespace Declaration

def toRecord (declaration : Declaration) (members : List Member) :
    Action Registry Model.Record := do
  let _ ← Action.lift (declaration.checkAttributes .record)
  Action.lift (declaration.ensureDistinct .field (members.map Member.name))
  let fields ← Action.each Member.convert members
  return { name := declaration.name, fields }

def toVariants (declaration : Declaration) (constructors : List Constructor)
    (operations : List Operation) : Action Registry (List Model.Variant) := do
  match constructors with
  | [] => pure ()
  | first :: _ =>
      Action.fail ⟨.unionWithConstructors declaration.name, some declaration.name,
        first.location.or declaration.location⟩
  Action.lift (declaration.ensureDistinct .variant (operations.map Operation.name))
  Action.each (Operation.toVariant declaration.name) operations

def toObject (declaration : Declaration) (attributes : List Attribute)
    (constructors : List Constructor) (operations : List Operation) :
    Action Registry Model.Object := do
  let constructors ← Action.each Constructor.convert constructors
  let constructorNames := constructors.map Model.Constructor.name
  let methodNames := operations.map Operation.name
  Action.lift (declaration.ensureDistinct .constructor constructorNames)
  Action.lift (declaration.ensureDistinct .method methodNames)
  Action.lift (declaration.ensureDistinct .callable (constructorNames ++ methodNames))
  let methods ← Action.each (Operation.toMethod declaration.name) operations
  return {
    name := declaration.name
    constructors
    methods
    threadsafe := Attribute.has .threadsafe attributes }

def toCallback (declaration : Declaration) (operations : List Operation) :
    Action Registry Model.CallbackInterface := do
  let _ ← Action.lift (declaration.checkAttributes .callbackInterface)
  Action.lift (declaration.ensureDistinct .method (operations.map Operation.name))
  let methods ← Action.each (Operation.toMethod declaration.name) operations
  return { name := declaration.name, methods }

end Declaration

end NativeBoundary.Document

namespace NativeBoundary.Interface

open Document (Operation)

def addOperation (operation : Operation) : Action Interface Unit := do
  let function ← onRegistry operation.toFunction
  addFunction function operation.location

/-- Adds what one declaration declares. A typedef was dealt with when it was discovered. -/
def declareOne (declaration : Document.Declaration) : Action Interface Unit := do
  match declaration.body with
  | .space functions =>
      let _ ← Action.lift (declaration.checkAttributes .base)
      addSpace (.text declaration.name) declaration.location
      Action.forAll addOperation functions
  | .dictionary members =>
      let record ← onRegistry (declaration.toRecord members)
      addRecord record
  | .enum values =>
      let attributes ← Action.lift (declaration.checkAttributes .enum)
      Action.lift (declaration.ensureDistinct .enumVariant values)
      let variants := values.map fun value => { name := value : Model.Variant }
      if Attribute.has .error attributes then addError ⟨declaration.name, variants⟩
      else addEnum ⟨declaration.name, variants⟩
  | .interface constructors operations =>
      let attributes ← Action.lift (declaration.checkAttributes .interface)
      if Attribute.has .enum attributes then
        let variants ← onRegistry (declaration.toVariants constructors operations)
        addEnum ⟨declaration.name, variants⟩
      else if Attribute.has .error attributes then
        let variants ← onRegistry (declaration.toVariants constructors operations)
        addError ⟨declaration.name, variants⟩
      else
        let object ← onRegistry (declaration.toObject attributes constructors operations)
        addObject object
  | .callbackInterface operations =>
      let callback ← onRegistry (declaration.toCallback operations)
      addCallback callback
  | .typedef _ => return ()

/-- Adds the declarations of a document in their order. -/
def declare (declarations : List Document.Declaration) : Action Interface Unit :=
  Action.forAll declareOne declarations

end NativeBoundary.Interface
