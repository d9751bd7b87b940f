import NativeBoundary.Interface.Basic

/-!
# Adding declarations

The operations by which an interface grows. Each either succeeds or leaves the interface as it was:
a finalized interface takes nothing more, a namespace is given once, and a list holds one
declaration of a name. Deriving the foreign functions and finalizing end the growth.
-/

namespace NativeBoundary.Interface

open Model

/-- Performs an action on the registry of an interface. -/
def onRegistry {α : Type} (action : Action Registry α) : Action Interface α :=
  Action.onPart registry (fun registry interface => { interface with registry }) action

def ensureOpen : Action Interface Unit := do
  let interface ← Action.get
  Action.ensure (!interface.finalized) ⟨.finalized, none, none⟩

def addSpace (name : Tag) (location : Option Location) : Action Interface Unit := do
  ensureOpen
  let interface ← Action.get
  match interface.space with
  | none => Action.set { interface with space := some name }
  | some existing =>
      Action.fail ⟨.duplicateNamespace name.shown existing.shown, some name.shown, location⟩

/-- Puts a declaration behind those of its list unless its name is taken there. -/
def addTo {α : Type} (kind : DeclarationKind) (nameOf : α → String) (declared : Interface → List α)
    (update : List α → Interface → Interface) (item : α) : Action Interface Unit := do
  ensureOpen
  let interface ← Action.get
  let taken := (declared interface).any fun other => nameOf other == nameOf item
  Action.ensure (!taken)
    ⟨.duplicateDeclaration kind (nameOf item), some (nameOf item), none⟩
  Action.set (update (declared interface ++ [item]) interface)
  Action.note (.added kind (nameOf item))

def addEnum : Union → Action Interface Unit :=
  addTo .enum Union.name enums fun enums interface => { interface with enums }

def addRecord : Record → Action Interface Unit :=
  addTo .record Record.name records fun records interface => { interface with records }

def addObject : Object → Action Interface Unit :=
  addTo .object Object.name objects fun objects interface => { interface with objects }

def addCallback : CallbackInterface → Action Interface Unit :=
  addTo .callbackInterface CallbackInterface.name callbacks
    fun callbacks interface => { interface with callbacks }

def addError : Union → Action Interface Unit :=
  addTo .error Union.name errors fun errors interface => { interface with errors }

/-- Functions are no types, so their names are compared with those of the types here. -/
def addFunction (function : Function) (location : Option Location) : Action Interface Unit := do
  ensureOpen
  let interface ← Action.get
  let taken := interface.functions.any fun other => other.name == function.name
  Action.ensure (!taken)
    ⟨.duplicateDeclaration .function function.name, some function.name, location⟩
  Action.ensure (interface.type? function.name).isNone
    ⟨.functionNamedAsType function.name, some function.name, location⟩
  Action.set { interface with functions := interface.functions ++ [function] }

/-- Puts an object in the place of the first one of its name. -/
def replaceFirst (object : Object) : List Object → Option (List Object)
  | [] => none
  | first :: rest =>
      if first.name = object.name then some (object :: rest)
      else (replaceFirst object rest).map (first :: ·)

def replaceObject (object : Object) : Action Interface Unit := do
  ensureOpen
  let interface ← Action.get
  match replaceFirst object interface.objects with
  | some objects => Action.set { interface with objects }
  | none => Action.fail ⟨.nothingToReplace object.name, some object.name, none⟩

def orIncomplete {α : Type} : Option α → Action Interface α
  | some value => return value
  | none => Action.fail ⟨.breakdown .incompleteType, none, none⟩

def ensureWritable : Action Interface Unit := do
  let interface ← Action.get
  match interface.breakdown? with
  | none => return ()
  | some reason => Action.fail ⟨.breakdown reason, none, none⟩

/-- Derives the foreign functions of all declarations under the symbol space of the interface. What
was derived before is replaced. -/
def derive : Action Interface Unit := do
  ensureWritable
  let interface ← Action.get
  let space := interface.symbolSpace
  let functions ← orIncomplete (collect (Function.derive? space) interface.functions)
  Action.modify fun interface => { interface with functions }
  let objects ← orIncomplete (collect (Object.derive? space) interface.objects)
  Action.modify fun interface => { interface with objects }
  Action.modify fun interface =>
    { interface with callbacks := interface.callbacks.map (CallbackInterface.derive space) }
  Action.note (.derived space)

def finalize : Action Interface Unit :=
  Action.modify fun interface => { interface with finalized := true }

end NativeBoundary.Interface
