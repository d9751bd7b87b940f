import NativeBoundary.Proofs.Action.Completion
import NativeBoundary.Proofs.Registry.Discovery

/-!
# Introductions that agree

Discovery comes to its end exactly if no builtin spelling is introduced and no name is introduced
with two types.  That does not depend on the order of the introductions, and neither does what the
names stand for afterwards.
-/

namespace NativeBoundary.Registry

open NativeBoundary.Action

variable {before middle after : Registry} {introduced first second : List (String × Ty)}

/-- The introductions can all be made, one after the other. -/
structure Definable (introduced : List (String × Ty)) (registry : Registry) : Prop where
  free : ∀ binding ∈ introduced, Ty.builtin? binding.1 = none
  agrees : ∀ binding ∈ introduced, ∀ type, registry.type? binding.1 = some type → type = binding.2
  alike : ∀ binding ∈ introduced, ∀ other ∈ introduced, binding.1 = other.1 → binding.2 = other.2

namespace Definable

theorem nil (registry : Registry) : Definable [] registry := by
  constructor <;> simp

theorem singleton_iff {name : String} {type : Ty} :
    Definable [(name, type)] before ↔
      Ty.builtin? name = none ∧ ∀ other, before.type? name = some other → other = type := by
  constructor
  · intro definable
    exact ⟨definable.free _ List.mem_cons_self, definable.agrees _ List.mem_cons_self⟩
  · rintro ⟨free, agrees⟩
    exact ⟨by simpa using free, by simpa using agrees, by simp⟩

theorem mono (definable : Definable second before) (part : first ⊆ second) :
    Definable first before where
  free binding member := definable.free binding (part member)
  agrees binding member := definable.agrees binding (part member)
  alike binding member other otherMember :=
    definable.alike binding (part member) other (part otherMember)

theorem perm_iff (same : first.Perm second) : Definable first before ↔ Definable second before :=
  ⟨fun definable => definable.mono same.symm.subset, fun definable => definable.mono same.subset⟩

theorem congr_iff (same : after.names = before.names) :
    Definable introduced after ↔ Definable introduced before := by
  have names (name : String) : after.type? name = before.type? name := congrFun same name
  constructor
  · rintro ⟨free, agrees, alike⟩
    exact ⟨free, by simpa only [names] using agrees, alike⟩
  · rintro ⟨free, agrees, alike⟩
    exact ⟨free, by simpa only [names] using agrees, alike⟩

/-- Later introductions agree with the earlier ones and with what was bound before. -/
theorem append_iff (binds : Binds first before middle) :
    Definable (first ++ second) before ↔ Definable first before ∧ Definable second middle := by
  constructor
  · intro definable
    refine ⟨definable.mono (List.subset_append_left first second), ?_⟩
    have late := definable.mono (List.subset_append_right first second)
    refine ⟨late.free, fun binding member type bound => ?_, late.alike⟩
    rw [binds.type?] at bound
    rcases Option.or_eq_some_iff.mp bound with old | ⟨-, new⟩
    · exact late.agrees binding member type old
    · obtain ⟨front, rest, split, -⟩ := List.lookup_eq_some_iff.mp new
      have early : (binding.1, type) ∈ first := by simp [split]
      exact definable.alike _ (List.mem_append_left second early) binding
        (List.mem_append_right first member) rfl
  · rintro ⟨early, late⟩
    refine ⟨?_, ?_, ?_⟩
    · exact List.forall_mem_append.mpr ⟨early.free, late.free⟩
    · refine List.forall_mem_append.mpr ⟨early.agrees, fun binding member type bound => ?_⟩
      refine late.agrees binding member type ?_
      rw [binds.type?, bound, Option.some_or]
    · have across : ∀ binding ∈ first, ∀ other ∈ second,
          binding.1 = other.1 → binding.2 = other.2 := by
        intro binding member other otherMember same
        refine late.agrees other otherMember binding.2 ?_
        rw [← same]
        exact binds.agrees binding member
      refine List.forall_mem_append.mpr ⟨fun binding member => ?_, fun binding member => ?_⟩
      · exact List.forall_mem_append.mpr ⟨early.alike binding member, across binding member⟩
      · refine List.forall_mem_append.mpr ⟨fun other otherMember same => ?_,
          late.alike binding member⟩
        exact (across other otherMember binding member same.symm).symm

end Definable

theorem completes_define_iff {name : String} {type : Ty} {location : Option Location} :
    (define name type location).Completes before ↔ Definable [(name, type)] before := by
  rw [Definable.singleton_iff]
  simp only [Completes, define_yields]
  cases bound : before.type? name <;> simp [eq_comm]

theorem completes_discoverOne_iff {declaration : Document.Declaration} :
    (discoverOne declaration).Completes before ↔
      (∃ type, declaration.introduced = .ok type) ∧ Definable declaration.bindings before := by
  unfold discoverOne Document.Declaration.bindings
  rw [completes_lift_bind]
  cases declaration.introduced with
  | error problem => simp
  | ok introduced =>
      cases introduced with
      | none => simp [Definable.nil]
      | some type =>
          have binding : (define declaration.name type declaration.location >>= fun _ =>
              pure true).Completes before ↔ Definable [(declaration.name, type)] before :=
            completes_bind_pure.trans completes_define_iff
          simpa using binding

theorem completes_discover_iff {declarations : List Document.Declaration} :
    (discover declarations).Completes before ↔
      (∀ declaration ∈ declarations, ∃ type, declaration.introduced = .ok type) ∧
        Definable (declarations.flatMap Document.Declaration.bindings) before := by
  have noted : (discover declarations).Completes before ↔
      (each discoverOne declarations).Completes before := by
    simp only [discover, completes_bind, completes_note, and_true]
    rfl
  rw [noted]
  clear noted
  induction declarations generalizing before with
  | nil => simp [Definable.nil]
  | cons declaration rest ih =>
      rw [completes_each_cons, List.flatMap_cons, List.forall_mem_cons]
      constructor
      · rintro ⟨_, middle, first, others⟩
        obtain ⟨introduced, early⟩ := completes_discoverOne_iff.mp first.completes
        obtain ⟨introducedRest, late⟩ := ih.mp others
        exact ⟨⟨introduced, introducedRest⟩,
          (Definable.append_iff (binds_of_discoverOne first)).mpr ⟨early, late⟩⟩
      · rintro ⟨⟨introduced, introducedRest⟩, definable⟩
        have early := definable.mono (List.subset_append_left _ _)
        obtain ⟨_, middle, first⟩ := completes_discoverOne_iff.mpr ⟨introduced, early⟩
        obtain ⟨-, late⟩ := (Definable.append_iff (binds_of_discoverOne first)).mp definable
        exact ⟨_, middle, first, ih.mpr ⟨introducedRest, late⟩⟩

theorem completes_defineAll_iff {introduced : List (String × Ty)} :
    (Action.forAll (fun binding => define binding.1 binding.2 none) introduced).Completes before ↔
      Definable introduced before := by
  induction introduced generalizing before with
  | nil => simp [Definable.nil]
  | cons binding rest ih =>
      rw [completes_forAll_cons, ← List.singleton_append]
      constructor
      · rintro ⟨middle, first, others⟩
        exact (Definable.append_iff (binds_of_define first)).mpr
          ⟨completes_define_iff.mp first.completes, ih.mp others⟩
      · intro definable
        have early := definable.mono (List.subset_append_left _ _)
        obtain ⟨_, middle, first⟩ := completes_define_iff.mpr early
        obtain ⟨-, late⟩ := (Definable.append_iff (binds_of_define first)).mp definable
        exact ⟨middle, first, ih.mpr late⟩

/-- What names stand for after all introductions does not depend on their order. -/
theorem Binds.names_eq_of_perm {registry other : Registry} (binds : Binds first {} registry)
    (bindsOther : Binds second {} other) (same : first.Perm second) :
    registry.names = other.names := by
  have carried {name : String} {type : Ty} {left right : List (String × Ty)}
      {one another : Registry} (bindsLeft : Binds left {} one) (bindsRight : Binds right {} another)
      (part : left ⊆ right) (bound : one.type? name = some type) :
      another.type? name = some type := by
    rw [bindsLeft.type?] at bound
    obtain ⟨front, rest, split, -⟩ := List.lookup_eq_some_iff.mp bound
    exact bindsRight.agrees (name, type) (part (by simp [split]))
  funext name
  refine Option.ext fun type => ⟨?_, ?_⟩
  · exact carried binds bindsOther same.subset
  · exact carried bindsOther binds same.symm.subset

end NativeBoundary.Registry
