import NativeBoundary.Metadata.Merge
import NativeBoundary.Proofs.Action.Run
import NativeBoundary.Proofs.Registry.Resolution
import NativeBoundary.Registry.Discovery

/-!
# Names bound by discovery

Discovery runs through the declarations of a document and then through those of a metadata group.
When it comes to its end, a name stands for the first type that was introduced under it, every
later introduction agreed with that type, and no builtin spelling was touched.
-/

namespace NativeBoundary

/-- What a declaration introduces under its name, as a list of at most one binding. -/
def Document.Declaration.bindings (declaration : Document.Declaration) : List (String × Ty) :=
  match declaration.introduced with
  | .ok (some type) => [(declaration.name, type)]
  | _ => []

namespace Registry

/-- A registry grew by the listed introductions, and all of them agree with what is bound now. -/
structure Binds (introduced : List (String × Ty)) (before after : Registry) : Prop where
  type? : ∀ name, after.type? name = (before.type? name).or (introduced.lookup name)
  agrees : ∀ binding ∈ introduced, after.type? binding.1 = some binding.2
  free : ∀ binding ∈ introduced, Ty.builtin? binding.1 = none

namespace Binds

theorem refl (registry : Registry) : Binds [] registry registry where
  type? := by simp
  agrees := by simp
  free := by simp

theorem append {first second : List (String × Ty)} {before middle after : Registry}
    (left : Binds first before middle) (right : Binds second middle after) :
    Binds (first ++ second) before after where
  type? name := by
    rw [right.type?, left.type?, List.lookup_append, Option.or_assoc]
  agrees := by
    intro binding member
    rcases List.mem_append.mp member with early | late
    · rw [right.type?, left.agrees binding early, Option.some_or]
    · exact right.agrees binding late
  free := by
    intro binding member
    rcases List.mem_append.mp member with early | late
    · exact left.free binding early
    · exact right.free binding late

theorem congr {introduced : List (String × Ty)} {before after other : Registry}
    (binds : Binds introduced before after) (same : other.bindings = after.bindings) :
    Binds introduced before other where
  type? name := by
    rw [← binds.type? name]
    exact congrFun (names_eq_of_bindings same) name
  agrees binding member := by
    rw [← binds.agrees binding member]
    exact congrFun (names_eq_of_bindings same) binding.1
  free := binds.free

/-- Where nothing was bound before, names stand for what was introduced first. -/
theorem names_eq {introduced : List (String × Ty)} {registry : Registry}
    (binds : Binds introduced {} registry) :
    registry.names = fun name => introduced.lookup name := by
  funext name
  have bound := binds.type? name
  have unbound : Registry.type? name {} = none := rfl
  rw [unbound, Option.none_or] at bound
  exact bound

end Binds

theorem type?_record (name : String) (type : Ty) (registry : Registry) :
    (registry.record type).type? name = registry.type? name := by
  simp only [type?, bindings_record]

theorem type?_extend (name other : String) (type : Ty) (registry : Registry) :
    (registry.extend name type).type? other =
      (registry.type? other).or ([(name, type)].lookup other) := by
  unfold extend
  rw [type?_record]
  exact List.lookup_append

/-- Binding a name either finds it bound to the same type or binds it anew. -/
theorem define_yields {name : String} {type : Ty} {location : Option Location}
    {before after : Registry} {value : Unit} :
    (define name type location).Yields before value after ↔
      Ty.builtin? name = none ∧
        (before.type? name = some type ∧ after = before ∨
          before.type? name = none ∧ after = before.extend name type) := by
  unfold define
  cases builtin : Ty.builtin? name with
  | some spelled => simp
  | none =>
      cases bound : before.type? name with
      | some existing => simp [bound]
      | none => simp [bound]

theorem binds_of_define {name : String} {type : Ty} {location : Option Location}
    {before after : Registry} {value : Unit}
    (ran : (define name type location).Yields before value after) :
    Binds [(name, type)] before after := by
  obtain ⟨builtin, ⟨bound, rfl⟩ | ⟨unbound, rfl⟩⟩ := define_yields.mp ran
  · refine ⟨fun other => ?_, by simpa using bound, by simpa using builtin⟩
    by_cases same : other = name
    · rw [same, bound, Option.some_or]
    · have differs : (other == name) = false := by simpa using same
      simp [List.lookup_cons, differs]
  · refine ⟨fun other => type?_extend name other type before, ?_, by simpa using builtin⟩
    simp [type?_extend, unbound]

theorem binds_of_discoverOne {declaration : Document.Declaration} {before after : Registry}
    {value : Bool} (ran : (discoverOne declaration).Yields before value after) :
    Binds declaration.bindings before after := by
  unfold Document.Declaration.bindings
  simp only [discoverOne, Action.yields_bind, Action.yields_lift] at ran
  obtain ⟨introduced, middle, ⟨succeeded, rfl⟩, rest⟩ := ran
  rw [succeeded]
  cases introduced with
  | none =>
      obtain ⟨-, rfl⟩ := Action.yields_pure.mp rest
      exact Binds.refl _
  | some type =>
      obtain ⟨_, last, bound, finished⟩ := Action.yields_bind.mp rest
      obtain ⟨-, rfl⟩ := Action.yields_pure.mp finished
      exact binds_of_define bound

theorem binds_of_discover {declarations : List Document.Declaration} {before after : Registry}
    {value : Unit} (ran : (discover declarations).Yields before value after) :
    Binds (declarations.flatMap Document.Declaration.bindings) before after := by
  simp only [discover, Action.yields_bind, Action.yields_note] at ran
  obtain ⟨introduced, middle, each, rfl⟩ := ran
  induction declarations generalizing introduced before with
  | nil =>
      obtain ⟨-, rfl⟩ := Action.yields_actionPure.mp each
      exact Binds.refl _
  | cons declaration rest ih =>
      simp only [Action.each, Action.yields_bind, Action.yields_actionPure] at each
      obtain ⟨first, second, bound, others, last, ran, -, rfl⟩ := each
      exact (binds_of_discoverOne bound).append (ih others ran)

theorem binds_of_defineAll {introduced : List (String × Ty)} {before after : Registry}
    {value : Unit}
    (ran : (Action.forAll (fun binding => define binding.1 binding.2 none) introduced).Yields
      before value after) :
    Binds introduced before after := by
  induction introduced generalizing before with
  | nil =>
      rw [Action.yields_forAll_nil] at ran
      rw [ran]
      exact Binds.refl _
  | cons binding rest ih =>
      rw [Action.yields_forAll_cons] at ran
      obtain ⟨middle, first, others⟩ := ran
      exact (binds_of_define first).append (ih others)

end Registry

end NativeBoundary
