import NativeBoundary.Interface.Update
import NativeBoundary.Proofs.Action.Run
import NativeBoundary.Proofs.Registry.Resolution

/-!
# Completed updates

What an operation on an interface did when it was completed: which part changed, to what, and on
which condition.  Reading on the registry of an interface changes nothing but the types that it
knows, so the bound names of an interface stay the same through all conversions.
-/

namespace NativeBoundary.Interface

open NativeBoundary.Action

variable {α : Type} {before after : Interface} {value : Unit}

def names (interface : Interface) : Names := interface.registry.names

/-- The same interface, except for the types that its registry has met. -/
def SameBindings (before after : Interface) : Prop :=
  ∃ registry : Registry, registry.bindings = before.registry.bindings ∧
    after = { before with registry }

theorem SameBindings.names_eq (same : SameBindings before after) : after.names = before.names := by
  obtain ⟨registry, bindings, rfl⟩ := same
  exact Registry.names_eq_of_bindings bindings

@[simp] theorem onRegistry_yields {action : Action Registry α} {result : α} :
    (onRegistry action).Yields before result after ↔
      ∃ registry, action.Yields before.registry result registry ∧
        after = { before with registry } :=
  yields_onPart

theorem onRegistry_yields_of_reads {action : Action Registry α}
    {denoted : Names → Except Problem α} (reads : Registry.Reads action denoted) {result : α}
    (ran : (onRegistry action).Yields before result after) :
    denoted before.names = .ok result ∧ SameBindings before after := by
  obtain ⟨registry, ⟨succeeded, rfl⟩, rfl⟩ := onRegistry_yields.mp ran
  refine ⟨?_, _, reads.bindings before.registry, rfl⟩
  rw [← succeeded]
  exact (reads.result before.registry).symm

@[simp] theorem ensureOpen_bind_yields {next : Unit → Action Interface α} {result : α} :
    (ensureOpen >>= next).Yields before result after ↔
      before.finalized = false ∧ (next ()).Yields before result after := by
  simp [ensureOpen, yields_bind_unit, and_assoc]

theorem addSpace_yields {name : Tag} {location : Option Location} :
    (addSpace name location).Yields before value after ↔
      before.finalized = false ∧ before.space = none ∧
        after = { before with space := some name } := by
  cases given : before.space with
  | none => simp [addSpace, given]
  | some existing => simp [addSpace, given]

/-- A declaration is added behind the others, none of which has its name. -/
theorem addTo_yields {kind : DeclarationKind} {nameOf : α → String}
    {declared : Interface → List α} {update : List α → Interface → Interface} {item : α} :
    (addTo kind nameOf declared update item).Yields before value after ↔
      before.finalized = false ∧ nameOf item ∉ (declared before).map nameOf ∧
        after = update (declared before ++ [item]) before := by
  simp [addTo, List.mem_map]

theorem addFunction_yields {function : Model.Function} {location : Option Location} :
    (addFunction function location).Yields before value after ↔
      before.finalized = false ∧ function.name ∉ before.functions.map Model.Function.name ∧
        before.type? function.name = none ∧
        after = { before with functions := before.functions ++ [function] } := by
  simp [addFunction, List.mem_map]

theorem replaceFirst_names {object : Model.Object} {objects replaced : List Model.Object}
    (done : replaceFirst object objects = some replaced) :
    replaced.map Model.Object.name = objects.map Model.Object.name := by
  induction objects generalizing replaced with
  | nil => cases done
  | cons first rest ih =>
      unfold replaceFirst at done
      by_cases same : first.name = object.name
      · rw [if_pos same] at done
        cases done
        simp [same]
      · rw [if_neg same] at done
        obtain ⟨others, doneRest, rfl⟩ := Option.map_eq_some_iff.mp done
        simp [ih doneRest]

/-- Where names are distinct, replacing changes the object of the given name and no other. -/
theorem replaceFirst_eq_map {object : Model.Object} {objects replaced : List Model.Object}
    (distinct : (objects.map Model.Object.name).Nodup)
    (done : replaceFirst object objects = some replaced) :
    replaced = objects.map fun other => if other.name = object.name then object else other := by
  induction objects generalizing replaced with
  | nil => cases done
  | cons first rest ih =>
      obtain ⟨fresh, distinctRest⟩ := List.nodup_cons.mp distinct
      unfold replaceFirst at done
      by_cases same : first.name = object.name
      · rw [if_pos same] at done
        cases done
        have untouched : ∀ other ∈ rest, other.name ≠ object.name := by
          intro other member sameOther
          apply fresh
          rw [same, ← sameOther]
          exact List.mem_map_of_mem member
        rw [List.map_cons, if_pos same]
        congr 1
        exact (List.map_id'' (fun other => rfl) rest).symm.trans
          (List.map_congr_left fun other member => (if_neg (untouched other member)).symm)
      · rw [if_neg same] at done
        obtain ⟨others, doneRest, rfl⟩ := Option.map_eq_some_iff.mp done
        rw [List.map_cons, if_neg same, ← ih distinctRest doneRest]

theorem replaceObject_yields {object : Model.Object} :
    (replaceObject object).Yields before value after ↔
      before.finalized = false ∧ ∃ objects, replaceFirst object before.objects = some objects ∧
        after = { before with objects } := by
  cases replaced : replaceFirst object before.objects with
  | none => simp [replaceObject, replaced]
  | some objects => simp [replaceObject, replaced]

end NativeBoundary.Interface
