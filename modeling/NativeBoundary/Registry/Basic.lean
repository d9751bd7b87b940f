import NativeBoundary.Outcome
import NativeBoundary.Ty.Part
import NativeBoundary.TypeExpr.Basic

/-!
# The type registry

Names bound to types, and all types met so far, both in the order in which they came. A name keeps
its first type; binding it to another one, or binding the spelling of a builtin type, is refused.
Resolving an expression looks up its names and records every type that it builds on the way, from
the inside out and from left to right.
-/

namespace NativeBoundary

structure Registry where
  bindings : List (String × Ty) := []
  known : List Ty := []
  deriving DecidableEq

namespace Registry

def type? (name : String) (registry : Registry) : Option Ty :=
  registry.bindings.lookup name

def record (type : Ty) (registry : Registry) : Registry :=
  if type ∈ registry.known then registry
  else { registry with known := registry.known ++ [type] }

/-- The registry with a name newly bound and its type recorded. -/
def extend (name : String) (type : Ty) (registry : Registry) : Registry :=
  { registry with bindings := registry.bindings ++ [(name, type)] }.record type

def define (name : String) (type : Ty) (location : Option Location) : Action Registry Unit := do
  if (Ty.builtin? name).isSome then
    Action.fail ⟨.shadowsBuiltin name type, some name, location⟩
  else
    let registry ← Action.get
    match registry.type? name with
    | some existing =>
        Action.ensure (existing = type)
          ⟨.conflictingType name existing.kind type.kind, some name, location⟩
    | none =>
        Action.set (registry.extend name type)
        Action.note (.bound name type.kind)

/-- The type that a name stands for: a builtin spelling first, then a binding. -/
def lookup? (name : String) (registry : Registry) : Option Ty :=
  (Ty.builtin? name).or (registry.type? name)

def resolveName (name : String) (location : Option Location) : Action Registry Ty := do
  let registry ← Action.get
  match registry.lookup? name with
  | some type => return type
  | none => Action.fail ⟨.unknownType name, some name, location⟩

/-- Records a type, and its optional when the expression is nullable. -/
def settle (nullable : Bool) (type : Ty) : Action Registry Ty := do
  Action.modify (record type)
  if nullable then
    Action.modify (record type.optional)
    return type.optional
  else
    return type

def resolve : TypeExpr → Action Registry Ty
  | ⟨.sequence, _, some element, _, _, nullable, _⟩ => do
      let inner ← resolve element
      settle nullable (.sequence inner)
  | ⟨.sequence, _, none, _, _, _, location⟩ =>
      Action.fail ⟨.sequenceWithoutElement, none, location⟩
  | ⟨.map, _, _, some key, some value, nullable, _⟩ => do
      let keyType ← resolve key
      let valueType ← resolve value
      settle nullable (.map keyType valueType)
  | ⟨.map, _, _, _, _, _, location⟩ =>
      Action.fail ⟨.mapWithoutParts, none, location⟩
  | ⟨.identifier, name, _, _, _, nullable, location⟩ => do
      let type ← resolveName (name.getD "") location
      settle nullable type
termination_by structural expr => expr

theorem known_record (type : Ty) (registry : Registry) : type ∈ (registry.record type).known := by
  unfold record
  split <;> simp_all

theorem bindings_record (type : Ty) (registry : Registry) :
    (registry.record type).bindings = registry.bindings := by
  unfold record
  split <;> rfl

end Registry

end NativeBoundary
