import NativeBoundary.Proofs.Action.Results
import NativeBoundary.Proofs.Registry.Discovery

/-!
# Declared types are bound to their names

Discovery binds a name to a declared type only if it is the name of that type.  In such an
environment every expression denotes a type whose declared parts are what their names stand for.
-/

namespace NativeBoundary

namespace Ty

theorem types_optional (inner : Ty) : inner.optional.types = inner.optional :: inner.types := by
  simp [optional, types, typesList]

theorem types_sequence (element : Ty) :
    (sequence element).types = sequence element :: element.types := by
  simp [sequence, types, typesList]

theorem types_map (key value : Ty) :
    (map key value).types = map key value :: (key.types ++ value.types) := by
  simp [map, types, typesList]

end Ty

namespace Names

/-- A type is what its own name stands for, unless no declaration introduces it. -/
def Binds (names : Names) (type : Ty) : Prop :=
  type.isDeclared = true → ∃ name, type.name = some name ∧ names name = some type

/-- Every declared type nested in a type is bound to its own name. -/
def Covers (names : Names) (type : Ty) : Prop :=
  ∀ part ∈ type.types, names.Binds part

/-- Names stand for covered types only. -/
def Closed (names : Names) : Prop :=
  ∀ {name type}, names name = some type → names.Covers type

variable {names : Names}

theorem Covers.optional {inner : Ty} (covered : names.Covers inner) :
    names.Covers inner.optional := by
  intro part member
  rw [Ty.types_optional] at member
  rcases List.mem_cons.mp member with rfl | inside
  · exact (nomatch ·)
  · exact covered part inside

theorem Covers.sequence {element : Ty} (covered : names.Covers element) :
    names.Covers (.sequence element) := by
  intro part member
  rw [Ty.types_sequence] at member
  rcases List.mem_cons.mp member with rfl | inside
  · exact (nomatch ·)
  · exact covered part inside

theorem Covers.map {key value : Ty} (coveredKey : names.Covers key)
    (coveredValue : names.Covers value) : names.Covers (.map key value) := by
  intro part member
  rw [Ty.types_map] at member
  rcases List.mem_cons.mp member with rfl | inside
  · exact (nomatch ·)
  · rcases List.mem_append.mp inside with inKey | inValue
    · exact coveredKey part inKey
    · exact coveredValue part inValue

theorem Covers.settled {type : Ty} (covered : names.Covers type) (nullable : Bool) :
    names.Covers (TypeExpr.settled nullable type) := by
  cases nullable with
  | false => exact covered
  | true => exact covered.optional

end Names

namespace Ty

theorem isDeclared_of_isBuiltin {kind : TyKind} (isBuiltin : kind.isBuiltin = true) :
    kind.isDeclared = false := by
  cases kind <;> first | rfl | cases isBuiltin

/-- A spelling of a builtin type stands for a type without parts that nothing declares. -/
theorem eq_builtin_of_builtin? {spelling : String} {type : Ty}
    (spelled : builtin? spelling = some type) :
    ∃ kind : TyKind, kind.isBuiltin = true ∧ type = builtin kind := by
  obtain ⟨kind, looked, rfl⟩ := Option.map_eq_some_iff.mp spelled
  obtain ⟨before, after, split, -⟩ := List.lookup_eq_some_iff.mp looked
  have all : ∀ entry ∈ builtinSpellings, entry.2.isBuiltin = true := by decide
  exact ⟨kind, all (spelling, kind) (by simp [split]), rfl⟩

theorem types_builtin (kind : TyKind) : (builtin kind).types = [builtin kind] := by
  simp [builtin, types, typesList]

theorem types_named (kind : TyKind) (name : String) :
    (named kind name).types = [named kind name] := by
  simp [named, types, typesList]

/-- The types that are introduced under a name: one that the name declares, an external one, or a
custom one over a builtin. -/
inductive Introduction (name : String) : Ty → Prop where
  | declared {kind : TyKind} (declares : kind.isDeclared = true) :
      Introduction name (named kind name)
  | external (source : String) : Introduction name (.external name source)
  | custom {kind : TyKind} (isBuiltin : kind.isBuiltin = true) :
      Introduction name (.custom name (builtin kind))

/-- If a declared type occurs in an introduced one, it is that type itself, under its own name. -/
theorem Introduction.eq_of_mem_types {name : String} {type part : Ty}
    (introduction : Introduction name type) (member : part ∈ type.types)
    (declares : part.isDeclared = true) : part = type ∧ part.name = some name := by
  cases introduction with
  | declared _ =>
      rw [types_named] at member
      rw [List.mem_singleton.mp member]
      exact ⟨rfl, rfl⟩
  | external source =>
      have same : part = .external name source := by
        simpa [Ty.external, types, typesList] using member
      rw [same] at declares
      cases declares
  | @custom kind isBuiltin =>
      have cases : part = .custom name (builtin kind) ∨ part = builtin kind := by
        simpa [Ty.custom, types, typesList, types_builtin] using member
      rcases cases with rfl | rfl
      · cases declares
      · rw [isDeclared, builtin, isDeclared_of_isBuiltin isBuiltin] at declares
        cases declares

end Ty

/-! ## What declarations and metadata introduce -/

namespace Document.Declaration

theorem introduction_of_typedefType {declaration : Declaration} {typeName : String} {type : Ty}
    (read : declaration.typedefType typeName = .ok type) :
    type.Introduction declaration.name := by
  obtain ⟨attributes, -, rest⟩ := Results.bind_eq_ok.mp read
  simp only at rest
  split at rest
  · split at rest
    · cases rest
    · split at rest
      · cases rest
        exact .external _
      · cases rest
  · split at rest
    · split at rest
      · next representation spelled =>
        obtain ⟨kind, isBuiltin, rfl⟩ := Ty.eq_builtin_of_builtin? spelled
        cases rest
        exact .custom isBuiltin
      · cases rest
    · cases rest

theorem introduction_of_introduced {declaration : Declaration} {type : Ty}
    (read : declaration.introduced = .ok (some type)) : type.Introduction declaration.name := by
  unfold introduced at read
  cases shape : declaration.body with
  | space functions => simp [shape] at read
  | dictionary members =>
      simp only [shape, Except.ok.injEq, Option.some.injEq] at read
      rw [← read]
      exact .declared rfl
  | callbackInterface operations =>
      simp only [shape, Except.ok.injEq, Option.some.injEq] at read
      rw [← read]
      exact .declared rfl
  | enum values =>
      simp only [shape] at read
      obtain ⟨attributes, -, finished⟩ := Results.bind_eq_ok.mp read
      cases finished
      refine .declared ?_
      split <;> rfl
  | interface constructors operations =>
      simp only [shape] at read
      obtain ⟨attributes, -, finished⟩ := Results.bind_eq_ok.mp read
      cases finished
      refine .declared ?_
      split
      · rfl
      · split <;> rfl
  | typedef typeName =>
      simp only [shape] at read
      obtain ⟨inner, readType, finished⟩ := Results.bind_eq_ok.mp read
      cases finished
      exact introduction_of_typedefType readType

theorem introduction_of_bindings {declaration : Declaration} {binding : String × Ty}
    (member : binding ∈ declaration.bindings) : binding.2.Introduction binding.1 := by
  unfold bindings at member
  split at member
  · next type read =>
    rw [List.mem_singleton.mp member]
    exact introduction_of_introduced read
  · cases member

end Document.Declaration

theorem Metadata.Group.introduction {group : Group} {binding : String × Ty}
    (member : binding ∈ group.introduced) : binding.2.Introduction binding.1 := by
  simp only [introduced, List.mem_append, List.mem_map] at member
  obtain ((⟨item, -, rfl⟩ | ⟨item, -, rfl⟩) | ⟨item, -, rfl⟩) | ⟨item, -, rfl⟩ := member <;>
    exact .declared rfl

/-- A name that is bound was introduced with its type. -/
theorem Registry.Binds.mem_of_bound {introduced : List (String × Ty)} {registry : Registry}
    (binds : Binds introduced {} registry) {name : String} {type : Ty}
    (bound : registry.names name = some type) : (name, type) ∈ introduced := by
  have looked : introduced.lookup name = some type := by
    rw [← bound]
    exact (binds.type? name).symm
  obtain ⟨before, after, split, -⟩ := List.lookup_eq_some_iff.mp looked
  rw [split]
  exact List.mem_append_right _ List.mem_cons_self

/-- Names bound one after the other, each to what is introduced under it, stand for types whose
declared parts they bind. -/
theorem Registry.Binds.closed {introduced : List (String × Ty)} {registry : Registry}
    (binds : Binds introduced {} registry)
    (each : ∀ binding ∈ introduced, binding.2.Introduction binding.1) :
    registry.names.Closed := by
  intro name type bound part member declares
  obtain ⟨rfl, named⟩ := (each _ (binds.mem_of_bound bound)).eq_of_mem_types member declares
  exact ⟨name, named, bound⟩

/-! ## What expressions denote -/

namespace TypeExpr

variable {names : Names}

theorem covers_of_denoteName (closed : names.Closed) {name : String} {location : Option Location}
    {type : Ty} (denoted : denoteName names name location = .ok type) : names.Covers type := by
  unfold denoteName at denoted
  split at denoted
  · next found meant =>
    cases denoted
    rcases Option.or_eq_some_iff.mp meant with spelled | ⟨-, bound⟩
    · obtain ⟨kind, isBuiltin, rfl⟩ := Ty.eq_builtin_of_builtin? spelled
      intro part member declared
      rw [Ty.types_builtin] at member
      rw [List.mem_singleton.mp member, Ty.isDeclared, Ty.builtin,
        Ty.isDeclared_of_isBuiltin isBuiltin] at declared
      cases declared
    · exact closed bound
  · cases denoted

/-- Where names stand for covered types only, so do expressions. -/
theorem covers_of_denote (closed : names.Closed) : ∀ (expr : TypeExpr) {type : Ty},
    expr.denote names = .ok type → names.Covers type
  | ⟨.sequence, _, some element, _, _, nullable, _⟩, type, denoted => by
      obtain ⟨inner, denotedInner, finished⟩ := Results.bind_eq_ok.mp denoted
      cases finished
      exact (covers_of_denote closed element denotedInner).sequence.settled nullable
  | ⟨.map, _, _, some key, some value, nullable, _⟩, type, denoted => by
      obtain ⟨keyType, denotedKey, rest⟩ := Results.bind_eq_ok.mp denoted
      obtain ⟨valueType, denotedValue, finished⟩ := Results.bind_eq_ok.mp rest
      cases finished
      have covered := (covers_of_denote closed key denotedKey).map
        (covers_of_denote closed value denotedValue)
      exact covered.settled nullable
  | ⟨.identifier, name, _, _, _, nullable, location⟩, type, denoted => by
      obtain ⟨inner, denotedName, finished⟩ := Results.bind_eq_ok.mp denoted
      cases finished
      exact (covers_of_denoteName closed denotedName).settled nullable
  | ⟨.sequence, _, none, _, _, _, _⟩, type, denoted => nomatch denoted
  | ⟨.map, _, _, none, _, _, _⟩, type, denoted => nomatch denoted
  | ⟨.map, _, _, some _, none, _, _⟩, type, denoted => nomatch denoted
termination_by structural expr => expr

end TypeExpr

end NativeBoundary
