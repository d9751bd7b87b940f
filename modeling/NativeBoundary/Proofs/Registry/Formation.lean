import NativeBoundary.Proofs.Build.Occurrence
import NativeBoundary.Proofs.Registry.Learning
import NativeBoundary.Proofs.Ty.WellFormed

/-!
# Types that expressions denote

Where every bound name stands for a type that was introduced under it, expressions denote exactly
what can be put together from the types that names mean: sequences and maps of anything, and
optionals of anything but an optional.  With a type all its parts are denoted, and it is well formed.
-/

namespace NativeBoundary

namespace Names

/-- Bound names stand for types introduced under them, and no spelling of a builtin type is
bound. -/
structure Proper (names : Names) : Prop where
  introduced : ∀ {name type}, names name = some type → type.Introduction name
  free : ∀ {name type}, names name = some type → Ty.builtin? name = none

/-- The types put together from those that names mean; nothing is optional twice. -/
inductive Denotes (names : Names) : Ty → Prop where
  | meaning {name : String} {type : Ty} (meant : names.meaning name = some type) :
      Denotes names type
  | optional {inner : Ty} (denotes : Denotes names inner) (single : inner.kind ≠ .optional) :
      Denotes names inner.optional
  | sequence {element : Ty} (denotes : Denotes names element) : Denotes names (.sequence element)
  | map {key value : Ty} (denotesKey : Denotes names key) (denotesValue : Denotes names value) :
      Denotes names (.map key value)

variable {names : Names} {type : Ty}

theorem Proper.meaning_of_bound (proper : names.Proper) {name : String}
    (bound : names name = some type) : names.meaning name = some type := by
  rw [meaning, proper.free bound, Option.none_or, bound]

/-- A name means a builtin type that it spells, or what was introduced under it. -/
theorem Proper.builtin_or_introduced (proper : names.Proper) {name : String}
    (meant : names.meaning name = some type) :
    (∃ kind : TyKind, kind.isBuiltin = true ∧ type = .builtin kind) ∨
      names name = some type ∧ type.Introduction name := by
  rcases Option.or_eq_some_iff.mp meant with spelled | ⟨-, bound⟩
  · exact .inl (Ty.eq_builtin_of_builtin? spelled)
  · exact .inr ⟨bound, proper.introduced bound⟩

theorem Proper.unlayered (proper : names.Proper) : names.Unlayered := by
  intro name type meant
  rcases proper.builtin_or_introduced meant with ⟨kind, isBuiltin, rfl⟩ | ⟨-, introduction⟩
  · exact TyKind.not_structural_of_isBuiltin isBuiltin
  · cases introduction with
    | declared declares => exact TyKind.not_structural_of_isDeclared declares
    | external | custom => rfl

theorem denotes_builtin {kind : TyKind} (isBuiltin : kind.isBuiltin = true) :
    names.Denotes (.builtin kind) := by
  have meant : names.meaning kind.name = some (.builtin kind) := by
    rw [meaning, Ty.builtin?_name isBuiltin, Option.some_or]
  exact .meaning meant

theorem Denotes.settled (denotes : names.Denotes type) (single : type.kind ≠ .optional)
    (nullable : Bool) : names.Denotes (TypeExpr.settled nullable type) := by
  cases nullable with
  | false => exact denotes
  | true => exact denotes.optional single

theorem Denotes.wellFormed (denotes : names.Denotes type) (proper : names.Proper) :
    type.WellFormed := by
  induction denotes with
  | meaning meant =>
      rcases proper.builtin_or_introduced meant with ⟨kind, isBuiltin, rfl⟩ | ⟨-, introduction⟩
      · exact Ty.wellFormed_builtin isBuiltin
      · exact introduction.wellFormed
  | optional _ _ formed => exact Ty.wellFormed_optional.mpr formed
  | sequence _ formed => exact Ty.wellFormed_sequence.mpr formed
  | map _ _ formedKey formedValue => exact Ty.wellFormed_map.mpr ⟨formedKey, formedValue⟩

/-- The representation of a custom type is builtin, so it is denoted too. -/
theorem Denotes.part (denotes : names.Denotes type) (proper : names.Proper) :
    ∀ part ∈ type.types, names.Denotes part := by
  induction denotes with
  | @meaning name type meant =>
      intro part member
      rcases proper.builtin_or_introduced meant with ⟨kind, isBuiltin, rfl⟩ | ⟨-, introduction⟩
      · rw [Ty.types_builtin, List.mem_singleton] at member
        exact member ▸ .meaning meant
      · cases introduction with
        | declared declares =>
            rw [Ty.types_named, List.mem_singleton] at member
            exact member ▸ .meaning meant
        | external source =>
            rw [Ty.types_external, List.mem_singleton] at member
            exact member ▸ .meaning meant
        | custom isBuiltin =>
            rw [Ty.types_custom, Ty.types_builtin] at member
            rcases List.mem_pair.mp member with rfl | rfl
            · exact .meaning meant
            · exact denotes_builtin isBuiltin
  | optional denotes single parts =>
      rw [Ty.types_optional, List.forall_mem_cons]
      exact ⟨denotes.optional single, parts⟩
  | sequence denotes parts =>
      rw [Ty.types_sequence, List.forall_mem_cons]
      exact ⟨denotes.sequence, parts⟩
  | map denotesKey denotesValue partsKey partsValue =>
      rw [Ty.types_map, List.forall_mem_cons, List.forall_mem_append]
      exact ⟨denotesKey.map denotesValue, partsKey, partsValue⟩

/-- What an expression denotes can be put together. -/
theorem Proper.denotes_of_denote (proper : names.Proper) : ∀ (expr : TypeExpr) {type : Ty},
    expr.denote names = .ok type → names.Denotes type
  | ⟨.sequence, _, some element, _, _, nullable, _⟩, type, denoted => by
      obtain ⟨inner, denotedInner, finished⟩ := Results.bind_eq_ok.mp denoted
      cases finished
      exact (proper.denotes_of_denote element denotedInner).sequence.settled nofun nullable
  | ⟨.map, _, _, some key, some value, nullable, _⟩, type, denoted => by
      obtain ⟨keyType, denotedKey, rest⟩ := Results.bind_eq_ok.mp denoted
      obtain ⟨valueType, denotedValue, finished⟩ := Results.bind_eq_ok.mp rest
      cases finished
      have denotes := (proper.denotes_of_denote key denotedKey).map
        (proper.denotes_of_denote value denotedValue)
      exact denotes.settled nofun nullable
  | ⟨.identifier, name, _, _, _, nullable, location⟩, type, denoted => by
      obtain ⟨inner, denotedName, finished⟩ := Results.bind_eq_ok.mp denoted
      cases finished
      have meant : names.meaning (name.getD "") = some inner := by
        unfold TypeExpr.denoteName at denotedName
        split at denotedName
        · next meant => cases denotedName; exact meant
        · cases denotedName
      have single : inner.kind ≠ .optional := by
        intro isOptional
        have structural := proper.unlayered meant
        rw [isOptional] at structural
        cases structural
      exact (Denotes.meaning meant).settled single nullable
  | ⟨.sequence, _, none, _, _, _, _⟩, type, denoted => nomatch denoted
  | ⟨.map, _, _, none, _, _, _⟩, type, denoted => nomatch denoted
  | ⟨.map, _, _, some _, none, _, _⟩, type, denoted => nomatch denoted
termination_by structural expr => expr

theorem Proper.gives_denotes (proper : names.Proper) : names.Gives names.Denotes :=
  fun expr _ denoted => (proper.denotes_of_denote expr denoted).part proper

end Names

/-- Names bound one after the other, each to what is introduced under it, are proper. -/
theorem Registry.Binds.proper {introduced : List (String × Ty)} {registry : Registry}
    (binds : Binds introduced {} registry)
    (each : ∀ binding ∈ introduced, binding.2.Introduction binding.1) :
    registry.names.Proper where
  introduced bound := each _ (binds.mem_of_bound bound)
  free bound := binds.free _ (binds.mem_of_bound bound)

end NativeBoundary
