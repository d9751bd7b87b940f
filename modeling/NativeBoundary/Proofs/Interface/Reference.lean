import NativeBoundary.Proofs.Build.Learning
import NativeBoundary.Proofs.Build.Listing
import NativeBoundary.Proofs.Interface.Reachability

/-!
# References resolve

A declared type that occurs anywhere in a built interface, in the types that its declarations use or
among the types that it knows, is what its name is bound to, and one declaration among all lists has
that name, in the list of the type's own kind.
-/

namespace NativeBoundary.Interface

/-- The types that the declarations of an interface are, once for every declaration. -/
def ownTypes (interface : Interface) : List Ty :=
  interface.records.map Model.Record.type ++
    interface.enums.map (fun union => .named .enum union.name) ++
    interface.errors.map (fun union => .named .error union.name) ++
    interface.callbacks.map Model.CallbackInterface.type ++
    interface.objects.map Model.Object.type

/-- The look-up that a declared type calls for, in the list of its kind, finds a declaration. -/
def finds (interface : Interface) (type : Ty) : Bool :=
  let name := type.name.getD ""
  match type.kind with
  | .record => (interface.record? name).isSome
  | .enum => (interface.enum? name).isSome
  | .error => (interface.error? name).isSome
  | .object => (interface.object? name).isSome
  | .callbackInterface => (interface.callback? name).isSome
  | _ => false

/-- All types that occur in the declarations of an interface or among the types that it knows, with
everything nested in them. -/
def occurring (interface : Interface) : List Ty :=
  interface.uses.flatMap Ty.types ++ interface.types.flatMap Ty.types

variable {interface : Interface}

theorem occurring_of_mem_uses {use : Ty} (used : use ∈ interface.uses) :
    use ∈ interface.occurring :=
  List.mem_append_left _ (List.mem_flatMap.mpr ⟨use, used, use.self_mem_types⟩)

theorem occurring_of_mem_types {type : Ty} (known : type ∈ interface.types) :
    type ∈ interface.occurring :=
  List.mem_append_right _ (List.mem_flatMap.mpr ⟨type, known, type.self_mem_types⟩)

theorem ownTypes_declared (interface : Interface) :
    interface.declared.ownTypes = interface.ownTypes := by
  simp only [ownTypes, declared, List.map_map]
  rfl

theorem named_of_mem_ownTypes {type : Ty} (member : type ∈ interface.ownTypes) :
    type.isDeclared = true ∧ ∃ name, type.name = some name := by
  simp only [ownTypes, List.mem_append, List.mem_map] at member
  obtain (((⟨_, -, rfl⟩ | ⟨_, -, rfl⟩) | ⟨_, -, rfl⟩) | ⟨_, -, rfl⟩) | ⟨_, -, rfl⟩ := member <;>
    exact ⟨rfl, _, rfl⟩

/-- The types of the declarations are what their entries bind. -/
theorem mem_ownTypes_iff {name : String} {type : Ty} :
    type ∈ interface.ownTypes ∧ type.name = some name ↔
      ∃ entry ∈ interface.entries, entry.binding? = some (name, type) := by
  have listed : interface.entries.filterMap Entry.binding? =
      interface.ownTypes.map fun own => (own.name.getD "", own) := by
    cases given : interface.space <;>
      simp [entries, ownTypes, given, List.filterMap_cons, Function.comp_def, Entry.binding?,
        DeclarationKind.introduces?, Ty.named, Model.Record.type, Model.CallbackInterface.type,
        Model.Object.type]
  rw [← List.mem_filterMap, listed, List.mem_map]
  constructor
  · rintro ⟨member, named⟩
    exact ⟨type, member, by rw [named, Option.getD_some]⟩
  · rintro ⟨own, member, same⟩
    obtain ⟨-, known, named⟩ := named_of_mem_ownTypes member
    obtain ⟨rfl, rfl⟩ := Prod.mk.inj same
    exact ⟨member, by rw [named, Option.getD_some]⟩

theorem finds_of_mem_ownTypes {type : Ty} (member : type ∈ interface.ownTypes) :
    interface.finds type = true := by
  have found {α : Type} {nameOf : α → String} {items : List α} {item : α}
      (inside : item ∈ items) : (items.find? fun other => nameOf other == nameOf item).isSome := by
    rw [List.find?_isSome]
    exact ⟨item, inside, beq_self_eq_true _⟩
  simp only [ownTypes, List.mem_append, List.mem_map] at member
  obtain (((⟨_, inside, rfl⟩ | ⟨_, inside, rfl⟩) | ⟨_, inside, rfl⟩) | ⟨_, inside, rfl⟩) |
    ⟨_, inside, rfl⟩ := member <;> exact found inside

theorem ownTypes_nodup (named : WellNamed interface) : interface.ownTypes.Nodup := by
  have listed {α : Type} {nameOf : α → String} {items : List α} (kind : TyKind)
      (distinct : (items.map nameOf).Nodup) :
      (items.map fun item => Ty.named kind (nameOf item)).Nodup := by
    have injective : Function.Injective (Ty.named kind) := fun _ _ same =>
      Option.some.inj (Ty.mk.inj same).2.1
    have mapped := distinct.map injective
    rwa [List.map_map] at mapped
  have records := listed .record named.records
  have enums := listed .enum named.enums
  have errors := listed .error named.errors
  have callbacks := listed .callbackInterface named.callbacks
  have objects := listed .object named.objects
  have apart {α β : Type} {nameOf : α → String} {nameOfOther : β → String} {items : List α}
      {others : List β} {kind other : TyKind} (differ : kind ≠ other) :
      List.Disjoint (items.map fun item => Ty.named kind (nameOf item))
        (others.map fun item => Ty.named other (nameOfOther item)) := by
    refine List.disjoint_left.mpr fun type first second => ?_
    obtain ⟨item, -, rfl⟩ := List.mem_map.mp first
    obtain ⟨_, -, same⟩ := List.mem_map.mp second
    exact differ (Ty.mk.inj same).1.symm
  simp only [ownTypes, List.nodup_append', List.disjoint_append_left]
  exact ⟨⟨⟨⟨records, enums, apart (by decide)⟩, errors, apart (by decide), apart (by decide)⟩,
    callbacks, ⟨apart (by decide), apart (by decide)⟩, apart (by decide)⟩, objects,
    ⟨⟨apart (by decide), apart (by decide)⟩, apart (by decide)⟩, apart (by decide)⟩

theorem uses_types_eq (interface : Interface) :
    interface.uses.flatMap Ty.types =
      interface.memberTypes ++ interface.functions.flatMap Model.Function.types := by
  simp only [uses, memberTypes, List.flatMap_append, Model.flatMap_types_eq Model.Record.types_eq,
    Model.flatMap_types_eq Model.Union.types_eq, Model.flatMap_types_eq Model.Object.types_eq,
    Model.flatMap_types_eq Model.CallbackInterface.types_eq,
    Model.flatMap_types_eq Model.Function.types_eq]

open Document (Declaration)
open Metadata (Group Item)

/-- Whatever occurs after both sources have been brought in is bound to its name. -/
theorem binds_occurring_of_bring {declarations : List Declaration} {group : Group}
    {version : Option Tag} {brought : Interface}
    (ran : (bring declarations group).Yields (empty version) () brought) :
    ∀ type ∈ brought.occurring, brought.names.Binds type := by
  have stage := plain_of_bring ran
  have used : ∀ type ∈ brought.uses.flatMap Ty.types, brought.names.Binds type := by
    rw [uses_types_eq]
    refine holds_append stage.binds_memberTypes fun type member => ?_
    obtain ⟨function, inside, occurs⟩ := List.mem_flatMap.mp member
    exact (stage.satisfies (Trait.throughout_denoted fun expr _ =>
      TypeExpr.covers_of_denote stage.closed expr)).functions function inside type occurs
  refine holds_append used fun part member => ?_
  obtain ⟨type, known, nested⟩ := List.mem_flatMap.mp member
  rcases ((Knows.bring ran).known_iff type).mp known with ⟨name, bound⟩ | ⟨use, inside, layer⟩
  · exact stage.closed bound part nested
  · have deep := Ty.types_subset_of_mem (Ty.layers_subset_types use layer) nested
    exact used part (List.mem_flatMap.mpr ⟨use, inside, deep⟩)

variable {document : Option Document} {items : List Item} {settings : Settings}

theorem occurring_declared (interface : Interface) :
    interface.declared.occurring = interface.occurring := by
  rw [occurring, uses_declared]
  rfl

/-- Whatever occurs in a built interface is bound to its name. -/
theorem binds_occurring_of_build (built : build document items settings = .ok interface) :
    ∀ type ∈ interface.occurring, interface.names.Binds type := by
  obtain ⟨group, brought, -, brings, sameRegistry, same⟩ := brought_of_build built
  have binds := binds_occurring_of_bring brings
  rw [← occurring_declared, same, names, sameRegistry]
  exact binds

/-- A name is bound to a declared type exactly if a declaration of that name is of this type. -/
theorem bound_iff_of_build (built : build document items settings = .ok interface) {name : String}
    {type : Ty} (declares : type.isDeclared = true) :
    interface.type? name = some type ↔ type ∈ interface.ownTypes ∧ type.name = some name := by
  obtain ⟨group, brought, -, brings, sameRegistry, same⟩ := brought_of_build built
  have bound : brought.names name = some type ↔ _ := bound_iff_of_bring brings declares
  rw [← mem_ownTypes_iff] at bound
  rw [← ownTypes_declared, same, type?, sameRegistry]
  exact bound

/-- All lists of a built interface together have each name at most once. -/
theorem ownTypes_filter_of_build (built : build document items settings = .ok interface)
    {name : String} {type : Ty} (member : type ∈ interface.ownTypes)
    (named : type.name = some name) :
    interface.ownTypes.filter (·.name = some name) = [type] := by
  have only : ∀ other ∈ interface.ownTypes,
      decide (other.name = some name) = (other == type) := by
    intro other inside
    rw [beq_eq_decide, decide_eq_decide]
    refine ⟨fun alike => ?_, fun same => same ▸ named⟩
    have bound := (bound_iff_of_build built (named_of_mem_ownTypes member).1).mpr ⟨member, named⟩
    have boundOther :=
      (bound_iff_of_build built (named_of_mem_ownTypes inside).1).mpr ⟨inside, alike⟩
    exact Option.some.inj (boundOther.symm.trans bound)
  rw [List.filter_congr only, List.filter_beq,
    List.count_eq_one_of_mem (ownTypes_nodup (wellNamed_of_build built)) member,
    List.replicate_one]

/-- Every reference in a built interface resolves: a declared type that occurs anywhere is what its
name is bound to, and the one declaration of that name is in the list of the type's own kind.  Every
declaration's name is bound to the type that it is, and no spelling of a builtin type is bound. -/
theorem references_resolve (built : build document items settings = .ok interface) :
    (∀ type ∈ interface.occurring, type.isDeclared = true →
      ∃ name, type.name = some name ∧ interface.type? name = some type ∧
        interface.ownTypes.filter (·.name = some name) = [type] ∧ interface.finds type = true) ∧
    (∀ own ∈ interface.ownTypes,
      ∃ name, own.name = some name ∧ interface.type? name = some own) ∧
    ∀ spelling, (Ty.builtin? spelling).isSome = true → interface.type? spelling = none := by
  refine ⟨fun type occurs declares => ?_, fun own member => ?_, fun spelling spells => ?_⟩
  · obtain ⟨name, named, bound⟩ := binds_occurring_of_build built type occurs declares
    obtain ⟨member, -⟩ := (bound_iff_of_build built declares).mp bound
    exact ⟨name, named, bound, ownTypes_filter_of_build built member named,
      finds_of_mem_ownTypes member⟩
  · obtain ⟨declares, name, named⟩ := named_of_mem_ownTypes member
    exact ⟨name, named, (bound_iff_of_build built declares).mpr ⟨member, named⟩⟩
  · obtain ⟨group, brought, -, brings, sameRegistry, -⟩ := brought_of_build built
    have binds := (plain_of_bring brings).binds
    rw [type?, sameRegistry]
    refine Option.eq_none_iff_forall_ne_some.mpr fun type bound => ?_
    rw [binds.free (spelling, type) (binds.mem_of_bound bound)] at spells
    cases spells

/-- The object that both sources declare, and that a result of the document refers to, is declared
once. -/
theorem references_resolve_shop :
    ∃ interface, build (some shopDocument) shopItems {} = .ok interface ∧
      .named .object "Store" ∈ interface.occurring ∧
      interface.type? "Store" = some (.named .object "Store") ∧
      interface.ownTypes.filter (·.name = some "Store") = [.named .object "Store"] ∧
      interface.finds (.named .object "Store") = true := by
  have built := build_ok_of_result
    (by decide +kernel : (buildOutcome (some shopDocument) shopItems {}).result = .ok ())
  have occurs : Ty.named .object "Store" ∈
      (buildOutcome (some shopDocument) shopItems {}).state.occurring := by decide +kernel
  obtain ⟨name, named, bound, once, found⟩ := (references_resolve built).1 _ occurs rfl
  cases named
  exact ⟨_, built, occurs, bound, once, found⟩

end NativeBoundary.Interface
