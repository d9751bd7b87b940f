import NativeBoundary.Interface.Update
import NativeBoundary.Metadata.Basic
import NativeBoundary.TypeExpr.Nesting

/-!
# Merging metadata

A group of metadata brought into an interface: its names are bound first, then its declarations are
added in the order of the group. A constructor or method goes to the object of its owner's name,
wherever that was declared, and its name must be new there.
-/

namespace NativeBoundary.Metadata

namespace Group

/-- The names that a group introduces, each with its type, in the order of the group. -/
def introduced (group : Group) : List (String × Ty) :=
  (group.records.map fun item => (item.name, Ty.named .record item.name)) ++
    (group.enums.map fun item => (item.name, Ty.named .enum item.name)) ++
    (group.errors.map fun item => (item.name, Ty.named .error item.name)) ++
    group.objects.map fun item => (item.name, Ty.named .object item.name)

def discover (group : Group) : Action Registry Unit :=
  Action.forAll (fun binding => Registry.define binding.1 binding.2 none) group.introduced

end Group

def resolveText (text : String) : Action Registry Ty := do
  let expr ← Action.lift (TypeExpr.readText .metadata text none)
  Registry.resolve expr

/-- An absent output and an empty one are both no result. -/
def resolveOutput : Option String → Action Registry (Option Ty)
  | none => return none
  | some text =>
      if text = "" then return none
      else do
        let type ← resolveText text
        return some type

def Slot.toField (slot : Slot) : Action Registry Model.Field := do
  let type ← resolveText slot.type
  return { name := slot.name, type }

def Slot.toArgument (slot : Slot) : Action Registry Model.Argument := do
  let type ← resolveText slot.type
  return { name := slot.name, type }

def Variant.convert (variant : Variant) : Action Registry Model.Variant := do
  let fields ← Action.each Slot.toField variant.fields
  return { name := variant.name, fields }

def throwsAttributes : Option String → List Attribute
  | none => []
  | some error => [{ kind := .throws, value := some error }]

def Record.convert (item : Record) : Action Registry Model.Record := do
  let fields ← Action.each Slot.toField item.fields
  return { name := item.name, fields }

def Enum.convert (item : Enum) : Action Registry Model.Union := do
  let variants ← Action.each Variant.convert item.variants
  return ⟨item.name, variants⟩

def Error.convert (item : Error) : Action Registry Model.Union :=
  if item.flat then
    return ⟨item.name, item.variants.map fun variant => { name := variant.name }⟩
  else do
    let variants ← Action.each Variant.convert item.variants
    return ⟨item.name, variants⟩

def Function.convert (item : Function) : Action Registry Model.Function := do
  let arguments ← Action.each Slot.toArgument item.inputs
  let result ← resolveOutput item.output
  return { name := item.name, arguments, result, attributes := throwsAttributes item.throws }

def Constructor.convert (item : Constructor) : Action Registry Model.Constructor := do
  let arguments ← Action.each Slot.toArgument item.inputs
  return { name := item.name, arguments, attributes := throwsAttributes item.throws }

def Method.convert (owner : String) (item : Method) : Action Registry Model.Method := do
  let arguments ← Action.each Slot.toArgument item.inputs
  let result ← resolveOutput item.output
  return {
    name := item.name
    owner
    arguments
    result
    attributes := throwsAttributes item.throws }

end NativeBoundary.Metadata

namespace NativeBoundary.Interface

open Metadata (Group Item)

/-- The object to which a member belongs. -/
def owningObject (owner member : String) : Action Interface Model.Object := do
  let interface ← Action.get
  match interface.object? owner with
  | some object => return object
  | none => Action.fail ⟨.unknownOwner member owner, some owner, none⟩

def ensureNewMember (kind : MemberKind) (name : String) (object : Model.Object) :
    Action Interface Unit :=
  let taken := (object.constructors.map Model.Constructor.name ++
    object.methods.map Model.Method.name).contains name
  Action.ensure (!taken) ⟨.duplicateMember kind name object.name, some name, none⟩

def mergeRecord (item : Metadata.Record) : Action Interface Unit := do
  let record ← onRegistry item.convert
  addRecord record

def mergeEnum (item : Metadata.Enum) : Action Interface Unit := do
  let union ← onRegistry item.convert
  addEnum union

def mergeError (item : Metadata.Error) : Action Interface Unit := do
  let union ← onRegistry item.convert
  addError union

/-- An object that is declared already stays as it is. -/
def mergeObject (item : Metadata.Object) : Action Interface Unit := do
  let interface ← Action.get
  if (interface.object? item.name).isNone then addObject { name := item.name }

def mergeFunction (item : Metadata.Function) : Action Interface Unit := do
  let function ← onRegistry item.convert
  addFunction function none

def mergeConstructor (item : Metadata.Constructor) : Action Interface Unit := do
  let object ← owningObject item.owner item.name
  ensureNewMember .constructor item.name object
  let constructor ← onRegistry item.convert
  replaceObject { object with constructors := object.constructors ++ [constructor] }

def mergeMethod (item : Metadata.Method) : Action Interface Unit := do
  let object ← owningObject item.owner item.name
  ensureNewMember .method item.name object
  let method ← onRegistry (item.convert object.name)
  replaceObject { object with methods := object.methods ++ [method] }

/-- Adds the declarations of a group whose names are bound. -/
def populate (group : Group) : Action Interface Unit := do
  Action.forAll mergeRecord group.records
  Action.forAll mergeEnum group.enums
  Action.forAll mergeError group.errors
  Action.forAll mergeObject group.objects
  Action.forAll mergeFunction group.functions
  Action.forAll mergeConstructor group.constructors
  Action.forAll mergeMethod group.methods
  if !group.isEmpty then Action.note (.merged (group.crate.getD ""))

/-- Brings items into an interface that is still growing. -/
def merge (items : List Item) : Action Interface Unit := do
  let group ← Action.lift (Group.ofItems items)
  onRegistry group.discover
  populate group

end NativeBoundary.Interface
