import NativeBoundary.Proofs.Build.Occurrence
import NativeBoundary.Proofs.Build.Refinement
import NativeBoundary.Proofs.Interface.Closure

/-!
# Reachability in a built interface

All types that occur in a built interface are bound to their names, so the traversal finds the
closure of every item whose own types are bound, and it ends however the declarations refer to each
other.
-/

namespace NativeBoundary

namespace Model

theorem Method.types_declared (method : Method) : method.declared.types = method.types := rfl

theorem Constructor.types_declared (constructor : Constructor) :
    constructor.declared.types = constructor.types := rfl

theorem Object.types_declared (object : Object) : object.declared.types = object.types := by
  simp only [types, declared, List.flatMap_map, Method.types_declared, Constructor.types_declared]

theorem CallbackInterface.types_declared (callback : CallbackInterface) :
    callback.declared.types = callback.types := by
  simp only [types, declared, List.flatMap_map, Method.types_declared]

end Model

namespace Interface

theorem memberTypes_declared (interface : Interface) :
    interface.declared.memberTypes = interface.memberTypes := by
  simp only [memberTypes, declared, List.flatMap_map, Model.Object.types_declared,
    Model.CallbackInterface.types_declared]

open Document (Declaration)
open Metadata (Group Item)

theorem Plain.closed {declarations : List Declaration} {group : Group} {plain : Interface}
    (stage : Plain declarations group plain) : plain.names.Closed :=
  stage.binds.closed fun _ => introduction_of_mem

/-- Every type that occurs in a plain interface is bound to its name. -/
theorem Plain.binds_memberTypes {declarations : List Declaration} {group : Group}
    {plain : Interface} (stage : Plain declarations group plain) :
    ∀ type ∈ plain.memberTypes, plain.names.Binds type := by
  have holds := stage.satisfies
    (Trait.throughout_denoted fun expr _ => TypeExpr.covers_of_denote stage.closed expr)
  have listed {α : Type} {items : List α} {types : α → List Ty}
      (each : ∀ item ∈ items, ∀ type ∈ types item, plain.names.Binds type) :
      ∀ type ∈ items.flatMap types, plain.names.Binds type := by
    intro type member
    obtain ⟨item, inside, occurs⟩ := List.mem_flatMap.mp member
    exact each item inside type occurs
  have records := listed holds.records
  have enums := listed holds.enums
  have errors := listed holds.errors
  have objects := listed holds.objects
  have callbacks := listed holds.callbacks
  exact holds_append
    (holds_append (holds_append (holds_append records enums) errors) objects) callbacks

variable {document : Option Document} {items : List Item} {settings : Settings}
  {interface : Interface}

theorem binds_memberTypes_of_build (built : build document items settings = .ok interface) :
    ∀ type ∈ interface.memberTypes, interface.names.Binds type := by
  obtain ⟨group, plain, derived, -, stage, -, derives, rfl⟩ := build_stages built
  have sameTypes : derived.memberTypes = plain.memberTypes := by
    rw [← memberTypes_declared, declared_of_derive derives, memberTypes_declared]
  have sameNames : derived.names = plain.names := by
    obtain ⟨-, functions, objects, -, -, rfl⟩ := derive_yields.mp derives
    rfl
  intro type member
  change derived.names.Binds type
  rw [sameNames]
  apply stage.binds_memberTypes
  rw [← sameTypes]
  exact member

/-- In a built interface the traversal from an item whose declared types are bound comes to its end
and finds the closure of the item, each type once. -/
theorem reachable_closure (built : build document items settings = .ok interface) {item : Ty}
    (covered : interface.names.Covers item) :
    (∀ bound, askable interface item ≤ bound →
        (expand interface bound (start item)).pending = [] ∧
          (expand interface bound (start item)).found = interface.reachable item) ∧
      (interface.reachable item).Nodup ∧
      (∀ type, type ∈ interface.reachable item ↔ Reaches interface item type) ∧
      (interface.reachesObject item = true ↔
        ∃ type, Reaches interface item type ∧ type.kind = .object) ∧
      (interface.reachesUnsigned item = true ↔
        ∃ type, Reaches interface item type ∧ type.isUnsigned = true) := by
  have isBound {type : Ty} (reached : Reaches interface item type) :
      interface.names.Binds type := by
    rcases List.mem_append.mp reached.mem with own | member
    · exact covered type own
    · exact binds_memberTypes_of_build built type member
  obtain ⟨holds, done, found⟩ := reachable_spec isBound
  have closure (type : Ty) : type ∈ interface.reachable item ↔ Reaches interface item type := by
    rw [found]
    exact holds.mem_found_iff done
  refine ⟨?_, ?_, closure, ?_, ?_⟩
  · intro bound enough
    rw [expand_of_le enough done]
    exact ⟨done, found.symm⟩
  · rw [found]
    exact holds.distinct
  · simp only [reachesObject, List.any_eq_true, closure, beq_iff_eq]
  · simp only [reachesUnsigned, List.any_eq_true, closure]

/-- Two records that hold each other, one of them also an object whose method takes the other. -/
def ringDocument : Document where
  definitions := [
    { name := "ring", body := .space [] },
    { name := "Left", body := .dictionary [{ name := "right", type := .named "Right" }] },
    { name := "Right", body := .dictionary [
        { name := "left", type := .sequenceOf (.named "Left") },
        { name := "keeper", type := .named "Keeper" }] },
    { name := "Keeper", body := .interface [{}] [
        { name := "keep", arguments := [{ name := "left", type := .named "Left" }],
          result := some (.named "u32") }] }]

/-- From either record, whatever the way round, the object and its unsigned result are reached. -/
theorem reachable_closure_ring :
    ∃ interface, build (some ringDocument) [] {} = .ok interface ∧
      interface.names.Covers (.named .record "Left") ∧
      (∃ type, Reaches interface (.named .record "Left") type ∧ type.kind = .object) ∧
      (∃ type, Reaches interface (.named .record "Left") type ∧ type.isUnsigned = true) := by
  have built := build_ok_of_result
    (by decide +kernel : (buildOutcome (some ringDocument) [] {}).result = .ok ())
  have bound : (buildOutcome (some ringDocument) [] {}).state.names "Left" =
      some (.named .record "Left") := by decide +kernel
  have covered : (buildOutcome (some ringDocument) [] {}).state.names.Covers
      (.named .record "Left") := by
    intro part member _
    rw [Ty.types_named] at member
    rw [List.mem_singleton.mp member]
    exact ⟨"Left", rfl, bound⟩
  obtain ⟨-, -, -, object, unsigned⟩ := reachable_closure built covered
  exact ⟨_, built, covered, object.mp (by decide +kernel), unsigned.mp (by decide +kernel)⟩

end Interface

end NativeBoundary
