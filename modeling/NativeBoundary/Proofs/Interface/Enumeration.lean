import NativeBoundary.Proofs.Interface.Vocabulary

/-!
# The two enumerations of types

An interface enumerates the types that it knows, and for any type those that can be reached from it.
What can be reached from a known type is known, except for what represents a custom type: a typedef
makes the custom type known, and its representation only becomes known where a declaration uses it.
-/

namespace NativeBoundary.Interface

open Document (Declaration)
open Metadata (Group Item)

section Bring

variable {declarations : List Declaration} {group : Group} {version : Option Tag}
  {brought : Interface} (ran : (bring declarations group).Yields (empty version) () brought)

include ran

theorem layers_known_of_bring {type : Ty} (known : type ∈ brought.types) :
    type.layers ⊆ brought.types := by
  intro layer inside
  have stage := plain_of_bring ran
  rcases ((Knows.bring ran).known_iff type).mp known with ⟨name, bound⟩ | ⟨use, used, outer⟩
  · have single := stage.proper.unlayered (stage.proper.meaning_of_bound bound)
    rw [Ty.layers_of_not_structural single] at inside
    exact List.mem_singleton.mp inside ▸ known
  · have layers := Ty.layers_subset_of_mem outer
    exact ((Knows.bring ran).known_iff layer).mpr (.inr ⟨use, used, layers inside⟩)

/-- Whatever occurs is known, or it represents a custom type that the document states. -/
theorem known_or_represents_of_bring {type : Ty} (occurs : type ∈ brought.occurring) :
    type ∈ brought.types ∨
      ∃ name, (name, type) ∈ declarations.filterMap Declaration.custom? := by
  have inside {whole : Ty} (known : whole.layers ⊆ brought.types) (formed : whole.WellFormed)
      (nested : type ∈ whole.types) : type ∈ brought.types ∨
        ∃ name, (name, type) ∈ declarations.filterMap Declaration.custom? := by
    rcases formed.mem_layers_or nested with layer | ⟨-, name, layer⟩
    · exact .inl (known layer)
    -- Beneath the layers there is only what represents a custom type among them.
    · obtain ⟨name, bound, introduction⟩ :=
        exists_introduction_of_known ran (known layer) (.inr rfl)
      exact .inr ⟨_, mem_stated_of_bound ran custom_tells bound rfl⟩
  have formed {whole : Ty} (occurs : whole ∈ brought.occurring) : whole.WellFormed :=
    (denotes_occurring_of_bring ran whole occurs).wellFormed (plain_of_bring ran).proper
  rcases List.mem_append.mp occurs with used | known
  · obtain ⟨use, member, nested⟩ := List.mem_flatMap.mp used
    have known : use.layers ⊆ brought.types := fun layer outer =>
      ((Knows.bring ran).known_iff layer).mpr (.inr ⟨use, member, outer⟩)
    exact inside known (formed (occurring_of_mem_uses member)) nested
  · obtain ⟨whole, member, nested⟩ := List.mem_flatMap.mp known
    exact inside (layers_known_of_bring ran member) (formed (occurring_of_mem_types member)) nested

end Bring

variable {document : Option Document} {items : List Item} {settings : Settings}
  {interface : Interface}

/-- What can be reached from a known type occurs in the interface. -/
theorem occurring_of_reaches {item type : Ty} (known : item ∈ interface.types)
    (reached : Reaches interface item type) : type ∈ interface.occurring := by
  rcases List.mem_append.mp reached.mem with own | member
  · exact List.mem_append_right _ (List.mem_flatMap.mpr ⟨item, known, own⟩)
  · refine List.mem_append_left _ ?_
    rw [uses_types_eq]
    exact List.mem_append_left _ member

/-- The representation of a custom type is known exactly if some declaration uses it. -/
theorem Vocabulary.known_representation_iff {declarations : List Declaration}
    (vocabulary : Vocabulary declarations interface) {name : String} {representation : Ty}
    (stated : (name, representation) ∈ declarations.filterMap Declaration.custom?) :
    representation ∈ interface.types ↔ ∃ use ∈ interface.uses, representation ∈ use.layers := by
  obtain ⟨declaration, -, states⟩ := List.mem_filterMap.mp stated
  have builtin := Declaration.isBuiltin_of_custom? states
  refine (vocabulary.known_iff representation).trans (or_iff_right ?_)
  rintro ⟨other, bound⟩
  rcases (vocabulary.bound_iff other representation).mp bound with
    ⟨own, -⟩ | ⟨source, -, rfl⟩ | ⟨inner, -, rfl⟩
  · have declares := (named_of_mem_ownTypes own).1
    rw [Ty.isDeclared, Ty.isDeclared_of_isBuiltin builtin] at declares
    cases declares
  · cases builtin
  · cases builtin

/-- What can be reached from a known type of a built interface is known, or it represents a custom
type of the document.  So the known types are closed exactly if the representations of all custom
types are used by declarations as well. -/
theorem reachable_known_of_build (built : build document items settings = .ok interface) :
    let customs := ((document.map Document.definitions).getD []).filterMap Declaration.custom?
    (∀ type ∈ interface.types, ∀ other ∈ interface.reachable type,
      other ∈ interface.types ∨ ∃ name, (name, other) ∈ customs) ∧
    ((∀ type ∈ interface.types, ∀ other ∈ interface.reachable type, other ∈ interface.types) ↔
      ∀ custom ∈ customs, ∃ use ∈ interface.uses, custom.2 ∈ use.layers) := by
  intro customs
  obtain ⟨group, brought, -, brings, sameRegistry, same⟩ := brought_of_build built
  have vocabulary := (vocabulary_of_bring brings).of_declared sameRegistry same
  have types : interface.types = brought.types := congrArg Registry.known sameRegistry
  have occurring : interface.occurring = brought.occurring := by
    rw [← occurring_declared, same]
    rfl
  have reaches {type other : Ty} (known : type ∈ interface.types) :
      other ∈ interface.reachable type ↔ Reaches interface type other :=
    mem_reachable_iff fun reached =>
      binds_occurring_of_build built _ (occurring_of_reaches known reached)
  have known_or : ∀ type ∈ interface.types, ∀ other ∈ interface.reachable type,
      other ∈ interface.types ∨ ∃ name, (name, other) ∈ customs := by
    intro type known other found
    have occurs := occurring_of_reaches known ((reaches known).mp found)
    rw [occurring] at occurs
    rw [types]
    exact known_or_represents_of_bring brings occurs
  refine ⟨known_or, fun closed custom stated => ?_, fun used type known other found => ?_⟩
  · obtain ⟨name, representation⟩ := custom
    have bound := (vocabulary.bound_iff name (.custom name representation)).mpr
      (.inr (.inr ⟨representation, stated, rfl⟩))
    have known := (vocabulary.known_iff _).mpr (.inl ⟨name, bound⟩)
    have nested : representation ∈ (Ty.custom name representation).types := by
      rw [Ty.types_custom]
      exact List.mem_cons_of_mem _ representation.self_mem_types
    exact (vocabulary.known_representation_iff stated).mp
      (closed _ known _ ((reaches known).mpr (.part nested)))
  · rcases known_or type known other found with inside | ⟨name, stated⟩
    · exact inside
    · exact (vocabulary.known_representation_iff stated).mpr (used _ stated)

/-- A custom type over texts, in front of other declarations. -/
def mailDocument (others : List Declaration) : Document where
  definitions := [
    { name := "mail", body := .space [] },
    .ofCustom "Email" "string"] ++ others

/-- A record that uses the custom type and texts as well. -/
def letter : Declaration where
  name := "Letter"
  body := .dictionary [
    { name := "sender", type := .named "Email" }, { name := "content", type := .named "string" }]

theorem reachable_known_of_build_letter :
    ∃ interface, build (some (mailDocument [letter])) [] {} = .ok interface ∧
      ∀ type ∈ interface.types, ∀ other ∈ interface.reachable type, other ∈ interface.types := by
  have built := build_ok_of_result
    (by decide +kernel : (buildOutcome (some (mailDocument [letter])) [] {}).result = .ok ())
  obtain ⟨-, closed⟩ := reachable_known_of_build built
  exact ⟨_, built, closed.mpr (by decide +kernel)⟩

/-- Where nothing uses texts directly, they are reached from the custom type and yet not known. -/
theorem reachable_unknown_email :
    ∃ interface, build (some (mailDocument [])) [] {} = .ok interface ∧
      .custom "Email" (.builtin .string) ∈ interface.types ∧
      .builtin .string ∈ interface.reachable (.custom "Email" (.builtin .string)) ∧
      .builtin .string ∉ interface.types := by
  have built := build_ok_of_result
    (by decide +kernel : (buildOutcome (some (mailDocument [])) [] {}).result = .ok ())
  exact ⟨_, built, by decide +kernel, by decide +kernel, by decide +kernel⟩

end NativeBoundary.Interface
