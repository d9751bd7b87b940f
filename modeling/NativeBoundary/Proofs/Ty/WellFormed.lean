import NativeBoundary.Foreign.Basic
import NativeBoundary.Proofs.Registry.Binding
import NativeBoundary.Proofs.Model.Uses
import NativeBoundary.Ty.Part

/-!
# Well-formed types

A well-formed type is put together in one of seven ways, and this is its induction principle.  Every
access that its kind provides for leads somewhere: it has a text and a foreign form, and the parts
that its kind has are there.
-/

namespace NativeBoundary

theorem TyKind.not_structural_of_isBuiltin {kind : TyKind} (isBuiltin : kind.isBuiltin = true) :
    kind.isStructural = false := by
  cases kind <;> first | rfl | cases isBuiltin

theorem TyKind.not_structural_of_isDeclared {kind : TyKind} (declares : kind.isDeclared = true) :
    kind.isStructural = false := by
  cases kind <;> first | rfl | cases declares

namespace Ty

/-! ## The seven forms -/

theorem wellFormed_builtin {kind : TyKind} (isBuiltin : kind.isBuiltin = true) :
    (builtin kind).WellFormed := by
  cases kind <;> first | exact ⟨trivial, rfl, rfl, rfl⟩ | cases isBuiltin

theorem wellFormed_optional {inner : Ty} : inner.optional.WellFormed ↔ inner.WellFormed := by
  simp [optional, WellFormed, WellFormedList]

theorem wellFormed_sequence {element : Ty} :
    (sequence element).WellFormed ↔ element.WellFormed := by
  simp [sequence, WellFormed, WellFormedList]

theorem wellFormed_map {key value : Ty} :
    (map key value).WellFormed ↔ key.WellFormed ∧ value.WellFormed := by
  simp [map, WellFormed, WellFormedList]

theorem wellFormed_named {kind : TyKind} (declares : kind.isDeclared = true) (name : String) :
    (named kind name).WellFormed := by
  cases kind <;> first | exact ⟨trivial, rfl, rfl, rfl⟩ | cases declares

theorem wellFormed_external (name source : String) : (external name source).WellFormed := by
  simp [external, WellFormed, WellFormedList]

theorem wellFormed_custom {kind : TyKind} (isBuiltin : kind.isBuiltin = true) (name : String) :
    (custom name (builtin kind)).WellFormed := by
  refine ⟨⟨wellFormed_builtin isBuiltin, trivial⟩, rfl, rfl, builtin kind, rfl, isBuiltin⟩

theorem Introduction.wellFormed {name : String} {type : Ty}
    (introduction : type.Introduction name) : type.WellFormed := by
  cases introduction with
  | declared declares => exact wellFormed_named declares name
  | external source => exact wellFormed_external name source
  | custom isBuiltin => exact wellFormed_custom isBuiltin name

/-- A well-formed type of a builtin kind has nothing else. -/
theorem WellFormed.eq_builtin {type : Ty} (formed : type.WellFormed)
    (isBuiltin : type.kind.isBuiltin = true) : type = builtin type.kind := by
  obtain ⟨kind, name, args, source⟩ := type
  obtain ⟨-, shape⟩ := formed
  cases kind <;> first | (obtain ⟨rfl, rfl, rfl⟩ := shape; rfl) | cases isBuiltin

/-- What holds of each of the seven forms, provided it holds of the parts, holds of every
well-formed type. -/
@[elab_as_elim]
theorem WellFormed.induction {motive : (type : Ty) → type.WellFormed → Prop}
    (builtin : ∀ {kind : TyKind} (isBuiltin : kind.isBuiltin = true),
      motive (builtin kind) (wellFormed_builtin isBuiltin))
    (optional : ∀ {inner : Ty} (formed : inner.WellFormed), motive inner formed →
      motive inner.optional (wellFormed_optional.mpr formed))
    (sequence : ∀ {element : Ty} (formed : element.WellFormed), motive element formed →
      motive (sequence element) (wellFormed_sequence.mpr formed))
    (map : ∀ {key value : Ty} (formedKey : key.WellFormed) (formedValue : value.WellFormed),
      motive key formedKey → motive value formedValue →
        motive (map key value) (wellFormed_map.mpr ⟨formedKey, formedValue⟩))
    (named : ∀ {kind : TyKind} (name : String) (declares : kind.isDeclared = true),
      motive (named kind name) (wellFormed_named declares name))
    (external : ∀ name source : String,
      motive (external name source) (wellFormed_external name source))
    (custom : ∀ {kind : TyKind} (name : String) (isBuiltin : kind.isBuiltin = true),
      motive (custom name (.builtin kind)) (wellFormed_custom isBuiltin name)) :
    ∀ {type : Ty} (formed : type.WellFormed), motive type formed
  | ⟨kind, name, args, source⟩, formed => by
      have byParts {part : Ty} (inside : part ∈ args) (formedPart : part.WellFormed) :
          motive part formedPart :=
        WellFormed.induction builtin optional sequence map named external custom formedPart
      obtain ⟨parts, shape⟩ := id formed
      cases kind
      case optional =>
        obtain ⟨rfl, rfl, one⟩ := shape
        obtain ⟨inner, rfl⟩ := List.length_eq_one_iff.mp one
        exact optional parts.1 (byParts (by simp) parts.1)
      case sequence =>
        obtain ⟨rfl, rfl, one⟩ := shape
        obtain ⟨element, rfl⟩ := List.length_eq_one_iff.mp one
        exact sequence parts.1 (byParts (by simp) parts.1)
      case map =>
        obtain ⟨rfl, rfl, two⟩ := shape
        obtain ⟨key, value, rfl⟩ := List.length_eq_two.mp two
        exact map parts.1 parts.2.1 (byParts (by simp) parts.1) (byParts (by simp) parts.2.1)
      case external =>
        obtain ⟨isNamed, isSourced, rfl⟩ := shape
        obtain ⟨name, rfl⟩ := Option.isSome_iff_exists.mp isNamed
        obtain ⟨source, rfl⟩ := Option.isSome_iff_exists.mp isSourced
        exact external name source
      case custom =>
        obtain ⟨isNamed, rfl, representation, rfl, isBuiltin⟩ := shape
        obtain ⟨name, rfl⟩ := Option.isSome_iff_exists.mp isNamed
        have bare := parts.1.eq_builtin isBuiltin
        generalize representation.kind = kind at isBuiltin bare
        subst bare
        exact custom name isBuiltin
      case record | enum | object | callbackInterface | error =>
        obtain ⟨isNamed, rfl, rfl⟩ := shape
        obtain ⟨name, rfl⟩ := Option.isSome_iff_exists.mp isNamed
        exact named name rfl
      all_goals
        obtain ⟨rfl, rfl, rfl⟩ := shape
        exact builtin rfl
termination_by type => sizeOf type
decreasing_by
  have smaller := List.sizeOf_lt_of_mem inside
  simp only [Ty.mk.sizeOf_spec]
  omega

/-! ## Texts, parts and foreign forms -/

theorem text?_optional (inner : Ty) : inner.optional.text? = inner.text?.map (· ++ "?") := rfl

theorem text?_sequence (element : Ty) :
    (sequence element).text? = element.text?.map ("sequence<" ++ · ++ ">") := rfl

theorem text?_map {key value : Ty} {keyText valueText : String} (first : key.text? = some keyText)
    (second : value.text? = some valueText) :
    (map key value).text? = some ("record<" ++ keyText ++ ", " ++ valueText ++ ">") := by
  simp only [map, text?, first, second]

/-- A type that is not made of others has its name for a text, or else that of its kind. -/
theorem text?_of_not_structural {type : Ty} (single : type.kind.isStructural = false) :
    type.text? = some (type.name.getD type.kind.name) := by
  obtain ⟨kind, name, args, source⟩ := type
  cases kind <;> first | rfl | cases single

theorem WellFormed.text?_isSome {type : Ty} (formed : type.WellFormed) :
    type.text?.isSome = true := by
  induction formed using WellFormed.induction with
  | optional _ inner => rwa [text?_optional, Option.isSome_map]
  | sequence _ element => rwa [text?_sequence, Option.isSome_map]
  | map _ _ key value =>
      obtain ⟨keyText, first⟩ := Option.isSome_iff_exists.mp key
      obtain ⟨valueText, second⟩ := Option.isSome_iff_exists.mp value
      rw [text?_map first second, Option.isSome_some]
  | builtin isBuiltin =>
      rw [text?_of_not_structural (TyKind.not_structural_of_isBuiltin isBuiltin),
        Option.isSome_some]
  | named name declares =>
      rw [text?_of_not_structural (TyKind.not_structural_of_isDeclared declares),
        Option.isSome_some]
  | external | custom => rfl

theorem WellFormed.position_lt {type : Ty} (formed : type.WellFormed) {part : Part}
    (has : type.kind ∈ part.kinds) : part.position < type.args.length := by
  obtain ⟨kind, name, args, source⟩ := type
  obtain ⟨-, shape⟩ := formed
  cases part with
  | inner =>
      rcases List.mem_pair.mp has with rfl | rfl <;>
        exact Nat.lt_of_lt_of_eq Nat.zero_lt_one shape.2.2.symm
  | key =>
      cases List.mem_singleton.mp has
      exact Nat.lt_of_lt_of_eq Nat.zero_lt_two shape.2.2.symm
  | value =>
      cases List.mem_singleton.mp has
      exact Nat.lt_of_lt_of_eq Nat.one_lt_two shape.2.2.symm
  | representation =>
      cases List.mem_singleton.mp has
      obtain ⟨-, -, representation, rfl, -⟩ := shape
      exact Nat.zero_lt_one

/-- Every part that the kind of a well-formed type has is there. -/
theorem WellFormed.exists_part {type : Ty} (formed : type.WellFormed) {part : Part}
    (has : type.kind ∈ part.kinds) : ∃ component, type.part part = .ok component := by
  have accepted : part.kinds.contains type.kind = true := List.contains_iff_mem.mpr has
  obtain ⟨component, found⟩ : ∃ component, type.args[part.position]? = some component :=
    ⟨_, List.getElem?_eq_getElem (formed.position_lt has)⟩
  exact ⟨component, by rw [Ty.part, if_pos accepted, found]⟩

theorem WellFormed.foreign?_isSome {type : Ty} (formed : type.WellFormed) :
    type.foreign?.isSome = true := by
  induction formed using WellFormed.induction with
  | @custom kind name isBuiltin => cases kind <;> first | rfl | cases isBuiltin
  | @named kind name declares => cases kind <;> first | rfl | cases declares
  | @builtin kind isBuiltin => cases kind <;> first | rfl | cases isBuiltin
  | optional | sequence | map | external => rfl

/-- Whatever is asked of a type is there: its parts, its text and its foreign form. -/
structure Usable (type : Ty) : Prop where
  wellFormed : type.WellFormed
  text : type.text?.isSome = true
  parts : ∀ part : Part, type.kind ∈ part.kinds → ∃ component, type.part part = .ok component
  foreign : type.foreign?.isSome = true

theorem WellFormed.usable {type : Ty} (formed : type.WellFormed) : type.Usable :=
  ⟨formed, formed.text?_isSome, fun _ => formed.exists_part, formed.foreign?_isSome⟩

/-! ## Heights -/

theorem height_optional (inner : Ty) : inner.optional.height = inner.height + 1 := by
  simp [optional, height, heightList]

theorem height_sequence (element : Ty) : (sequence element).height = element.height + 1 := by
  simp [sequence, height, heightList]

theorem height_map (key value : Ty) :
    (map key value).height = max key.height value.height + 1 := by
  simp [map, height, heightList]

theorem Introduction.height_le {name : String} {type : Ty} (introduction : type.Introduction name) :
    type.height ≤ 2 := by
  cases introduction <;>
    simp [named, Ty.external, Ty.custom, builtin, height, heightList]

/-- A well-formed type that is not too high has a text that can be written. -/
theorem WellFormed.spelled {type : Ty} (formed : type.WellFormed)
    (low : type.height ≤ deepestSpelling) : Breakdown.ofType? type = none := by
  rw [Breakdown.ofType?, Option.isNone_eq_false_iff.mpr formed.text?_isSome, if_neg (nomatch ·),
    if_neg (Nat.not_lt.mpr low)]

mutual

/-- What is nested in a type is at most as high. -/
theorem height_le_of_mem_types {part : Ty} :
    ∀ {type : Ty}, part ∈ type.types → part.height ≤ type.height
  | ⟨kind, name, args, source⟩, member => by
      rw [types] at member
      rcases List.mem_cons.mp member with rfl | inside
      · exact Nat.le_refl _
      · rw [height]
        exact Nat.le_succ_of_le (height_le_of_mem_typesList inside)

theorem height_le_of_mem_typesList {part : Ty} :
    ∀ {parts : List Ty}, part ∈ typesList parts → part.height ≤ heightList parts
  | type :: rest, member => by
      rw [typesList] at member
      rw [heightList]
      rcases List.mem_append.mp member with first | later
      · exact Nat.le_trans (height_le_of_mem_types first) (Nat.le_max_left _ _)
      · exact Nat.le_trans (height_le_of_mem_typesList later) (Nat.le_max_right _ _)

end

/-! ## Layers -/

theorem types_external (name source : String) :
    (external name source).types = [external name source] := by
  simp [external, types, typesList]

theorem types_custom (name : String) (representation : Ty) :
    (custom name representation).types = custom name representation :: representation.types := by
  simp [custom, types, typesList]

/-- What is nested in a well-formed type is one of its layers, unless it is what represents a custom
type among them. -/
theorem WellFormed.mem_layers_or {type part : Ty} (formed : type.WellFormed)
    (member : part ∈ type.types) :
    part ∈ type.layers ∨ part.kind.isBuiltin = true ∧ ∃ name, custom name part ∈ type.layers := by
  have single {type : Ty} (only : part ∈ [type]) : part ∈ type.layers := by
    rw [List.mem_singleton.mp only]
    cases type
    exact List.mem_cons_self
  induction formed using WellFormed.induction with
  | @optional inner _ nested =>
      rw [types_optional] at member
      simp only [layers_optional, List.mem_cons]
      rcases List.mem_cons.mp member with same | inside
      · exact .inl (.inl same)
      · exact (nested inside).imp .inr (And.imp_right (Exists.imp fun _ => .inr))
  | @sequence element _ nested =>
      rw [types_sequence] at member
      simp only [layers_sequence, List.mem_cons]
      rcases List.mem_cons.mp member with same | inside
      · exact .inl (.inl same)
      · exact (nested inside).imp .inr (And.imp_right (Exists.imp fun _ => .inr))
  | @map key value _ _ nestedKey nestedValue =>
      rw [types_map, List.mem_cons, List.mem_append] at member
      simp only [layers_map, List.mem_cons, List.mem_append]
      rcases member with same | inKey | inValue
      · exact .inl (.inl same)
      · exact (nestedKey inKey).imp (.inr ∘ .inl)
          (And.imp_right (Exists.imp fun _ => .inr ∘ .inl))
      · exact (nestedValue inValue).imp (.inr ∘ .inr)
          (And.imp_right (Exists.imp fun _ => .inr ∘ .inr))
  | builtin isBuiltin =>
      rw [types_builtin] at member
      exact .inl (single member)
  | named name declares =>
      rw [types_named] at member
      exact .inl (single member)
  | external name source =>
      rw [types_external] at member
      exact .inl (single member)
  | @custom kind name isBuiltin =>
      rw [types_custom, types_builtin] at member
      have own : (custom name (.builtin kind)).layers = [custom name (.builtin kind)] :=
        layers_of_not_structural rfl
      rw [own]
      rcases List.mem_pair.mp member with rfl | rfl
      · exact .inl List.mem_cons_self
      · exact .inr ⟨isBuiltin, name, List.mem_cons_self⟩

/-- An optional, a sequence or a map that is nested in a well-formed type is one of its layers. -/
theorem WellFormed.mem_layers {type part : Ty} (formed : type.WellFormed)
    (member : part ∈ type.types) (structural : part.kind.isStructural = true) :
    part ∈ type.layers := by
  rcases formed.mem_layers_or member with layer | ⟨isBuiltin, -⟩
  · exact layer
  · rw [TyKind.not_structural_of_isBuiltin isBuiltin] at structural
    cases structural

end Ty

end NativeBoundary
