import NativeBoundary.Proofs.Build.FunctionName
import NativeBoundary.Proofs.Build.Refinement
import NativeBoundary.Proofs.Interface.Rearrangement

/-!
# Coherence of built interfaces

The consistency check looks at an interface before anything is derived from it.  What it looks at is
the same afterwards, so a built interface passes it too.  Together with what discovery and the
additions see to, this keeps names of variants, of functions and of types apart and declares every
error that is thrown, wherever a declaration or a member came from.
-/

namespace NativeBoundary.Interface

open Metadata (Group Item)
open Model (throwsTypeOf)

variable {document : Option Document} {items : List Item} {settings : Settings}
  {interface : Interface}

/-! ## The check passes after the build -/

theorem throwing_declared (interface : Interface) :
    interface.declared.throwing = interface.throwing := by
  simp only [throwing, objectThrows, declared, Model.Object.declared,
    Model.CallbackInterface.declared, List.flatMap_map]
  rfl

theorem enumDefaults_declared (interface : Interface) :
    interface.declared.enumDefaults = interface.enumDefaults := by
  simp only [enumDefaults, objectDefaults, declared, Model.Object.declared, List.flatMap_map]
  rfl

/-- Nothing derived enters the check. -/
theorem check_declared (interface : Interface) : interface.declared.check = interface.check := by
  unfold check
  rw [throwing_declared, enumDefaults_declared]
  rfl

theorem check_of_build (built : build document items settings = .ok interface) :
    interface.check = .ok () := by
  obtain ⟨group, plain, derived, -, -, checked, derives, rfl⟩ := build_stages built
  calc
    ({ derived with finalized := true } : Interface).check = derived.check := rfl
    _ = derived.declared.check := (check_declared derived).symm
    _ = plain.declared.check := by rw [declared_of_derive derives]
    _ = plain.check := check_declared plain
    _ = .ok () := checked

/-! ## Thrown errors -/

/-- What a callable with these attributes throws is an error that the interface declares. -/
def DeclaresThrown (interface : Interface) (attributes : List Attribute) : Prop :=
  ∀ type, throwsTypeOf attributes = some type →
    ∃ union ∈ interface.errors, type = .named .error union.name

/-- A type is thrown exactly if the check is told of its name. -/
theorem throwsTypeOf_eq_some {attributes : List Attribute} {type : Ty} (owner : String) :
    throwsTypeOf attributes = some type ↔
      ∃ name, (owner, name) ∈ throwingOf owner attributes ∧ type = .named .error name := by
  unfold throwsTypeOf throwingOf
  cases Model.throwsOf attributes with
  | none => simp
  | some name =>
      by_cases blank : name = ""
      · simp [blank]
      · simp [blank, eq_comm]

theorem error?_isSome {name : String} :
    (interface.error? name).isSome = true ↔ ∃ union ∈ interface.errors, union.name = name := by
  simp [error?, List.find?_isSome]

theorem declaresThrown_of_mem (owner : String) {attributes : List Attribute}
    (declares : ∀ thrown ∈ interface.throwing, (interface.error? thrown.2).isSome = true)
    (listed : ∀ thrown ∈ throwingOf owner attributes, thrown ∈ interface.throwing) :
    interface.DeclaresThrown attributes := by
  intro type throws
  obtain ⟨name, inside, rfl⟩ := (throwsTypeOf_eq_some owner).mp throws
  obtain ⟨union, member, rfl⟩ := error?_isSome.mp (declares _ (listed _ inside))
  exact ⟨union, member, rfl⟩

/-! ## What holds of every built interface -/

/-- An interface has a namespace, its variants and functions are not named like types, its functions
are not named alike, and whatever a callable throws is declared. -/
structure Coherent (interface : Interface) : Prop where
  space : interface.spaceTag.isBlank = false
  variants : ∀ union ∈ interface.enums, ∀ variant ∈ union.variants,
    interface.type? variant.name = none
  functionNames : interface.functionNames.Nodup
  functionTypes : ∀ name ∈ interface.functionNames, interface.type? name = none
  functions : ∀ function ∈ interface.functions, interface.DeclaresThrown function.attributes
  constructors : ∀ object ∈ interface.objects, ∀ constructor ∈ object.constructors,
    interface.DeclaresThrown constructor.attributes
  methods : ∀ object ∈ interface.objects, ∀ method ∈ object.methods,
    interface.DeclaresThrown method.attributes
  callbackMethods : ∀ callback ∈ interface.callbacks, ∀ method ∈ callback.methods,
    interface.DeclaresThrown method.attributes

/-- Every built interface is coherent, whichever source its declarations and members come from. -/
theorem coherent_of_build (built : build document items settings = .ok interface) :
    Coherent interface := by
  obtain ⟨space, variants, thrown, -⟩ := check_eq_ok.mp (check_of_build built)
  have functionTypes : ∀ name ∈ interface.functionNames, interface.type? name = none := by
    obtain ⟨group, brought, -, brings, sameRegistry, same⟩ := brought_of_build built
    intro name member
    rw [← functionNames_declared, same] at member
    rw [type?, sameRegistry]
    exact functions_unbound_of_bring brings name member
  refine ⟨space, ?_, (wellNamed_of_build built).functions, functionTypes, ?_, ?_, ?_, ?_⟩
  · intro union member variant inside
    exact Option.isNone_iff_eq_none.mp
      (variants _ (List.mem_flatMap.mpr ⟨union, member, List.mem_map_of_mem inside⟩))
  · intro function member
    refine declaresThrown_of_mem function.name thrown fun _ throws => ?_
    exact List.mem_append_left _ (List.mem_append_left _
      (List.mem_flatMap.mpr ⟨function, member, throws⟩))
  · intro object member constructor inside
    refine declaresThrown_of_mem (memberName object.name constructor.name) thrown fun _ throws => ?_
    exact List.mem_append_left _ (List.mem_append_right _ (List.mem_flatMap.mpr
      ⟨object, member, List.mem_append_left _ (List.mem_flatMap.mpr ⟨_, inside, throws⟩)⟩))
  · intro object member method inside
    refine declaresThrown_of_mem (memberName object.name method.name) thrown fun _ throws => ?_
    exact List.mem_append_left _ (List.mem_append_right _ (List.mem_flatMap.mpr
      ⟨object, member, List.mem_append_right _ (List.mem_flatMap.mpr ⟨_, inside, throws⟩)⟩))
  · intro callback member method inside
    refine declaresThrown_of_mem (memberName callback.name method.name) thrown fun _ throws => ?_
    exact List.mem_append_right _ (List.mem_flatMap.mpr
      ⟨callback, member, List.mem_flatMap.mpr ⟨_, inside, throws⟩⟩)

/-- Every kind of callable throws an error of the document, a function and a method of the metadata
among them. -/
def vaultDocument : Document where
  definitions := [
    { name := "vault", body := .space [
      { name := "unlock", attributes := some [{ key := "Throws", value := some "Jammed" }] }] },
    { name := "Jammed", body := .enum ["bolt"], attributes := some [{ key := "Error" }] },
    { name := "Metal", body := .enum ["steel", "brass"] },
    { name := "Safe", body := .interface
        [{ attributes := some [{ key := "Throws", value := some "Jammed" }] }]
        [{ name := "turn", attributes := some [{ key := "Throws", value := some "Jammed" }] }] },
    { name := "Watcher", body := .callbackInterface [
      { name := "alarm", attributes := some [{ key := "Throws", value := some "Jammed" }] }] }]

def vaultItems : List Item := [
  .function { crateModule := "vault", name := "seal", throws := some "Jammed" },
  .method { crateModule := "vault", owner := "Safe", name := "slam", throws := some "Jammed" }]

theorem coherent_of_build_vault :
    ∃ interface, build (some vaultDocument) vaultItems {} = .ok interface ∧
      interface.functionNames = ["unlock", "seal"] ∧ interface.throwing.length = 6 ∧
      Coherent interface := by
  have built := build_ok_of_result
    (by decide +kernel : (buildOutcome (some vaultDocument) vaultItems {}).result = .ok ())
  exact ⟨_, built, by decide +kernel, by decide +kernel, coherent_of_build built⟩

end NativeBoundary.Interface
