import NativeBoundary.Proofs.Registry.Extension
import NativeBoundary.Proofs.Registry.Learning
import NativeBoundary.Proofs.Registry.Recording

/-!
# Types in the order in which they came

Whatever is done on a registry, completed or not, known types stay in front of those that are met
later, and none is there twice.  Discovery comes first, so the introduced types lead, each where it
was introduced first.
-/

namespace NativeBoundary.Registry

open NativeBoundary.Action

instance : IsPreorder Registry Gathers where
  refl := Gathers.refl
  trans _ _ _ := Gathers.trans

theorem gathers_extend (name : String) (type : Ty) (registry : Registry) :
    registry.Gathers (registry.extend name type) := by
  obtain ⟨known, distinct⟩ :=
    gathers_record type { registry with bindings := registry.bindings ++ [(name, type)] }
  exact ⟨known, distinct⟩

theorem define_gathers (name : String) (type : Ty) (location : Option Location) :
    Leads Gathers (define name type location) := by
  intro registry
  rw [define_state]
  split
  · exact gathers_extend name type registry
  · exact Gathers.refl registry

theorem discover_gathers (declarations : List Document.Declaration) :
    Leads Gathers (discover declarations) :=
  discover_leads_of define_gathers declarations

theorem defineAll_gathers (introduced : List (String × Ty)) :
    Leads Gathers (defineAll introduced) := by
  unfold defineAll
  exact Leads.forAll (fun binding => define_gathers binding.1 binding.2 none) introduced

/-! ## What discovery records -/

variable {before after : Registry}

/-- What is recorded behind equal types is the same. -/
theorem known_recordAll_congr (types : List Ty) (same : after.known = before.known) :
    (recordAll types after).known = (recordAll types before).known := by
  rw [known_recordAll, known_recordAll, same]

/-- Binding a name records its type; one that is bound already is known. -/
theorem known_of_define {name : String} {type : Ty} {location : Option Location} {value : Unit}
    (tallies : Tallies before) (ran : (define name type location).Yields before value after) :
    after.known = (before.record type).known := by
  obtain ⟨-, ⟨bound, rfl⟩ | ⟨-, rfl⟩⟩ := define_yields.mp ran
  · rw [record, if_pos ((tallies type).mpr ⟨name, bound⟩)]
  · unfold extend record
    split <;> rfl

theorem known_of_discoverOne {declaration : Document.Declaration} {value : Bool}
    (tallies : Tallies before) (ran : (discoverOne declaration).Yields before value after) :
    after.known = (recordAll (declaration.bindings.map Prod.snd) before).known := by
  obtain ⟨introduced, read, rest⟩ := yields_lift_bind.mp ran
  unfold Document.Declaration.bindings
  rw [read]
  cases introduced with
  | none =>
      obtain ⟨-, rfl⟩ := yields_pure.mp rest
      rfl
  | some type =>
      obtain ⟨_, bound, finished⟩ := yields_bind_unit.mp rest
      obtain ⟨-, rfl⟩ := yields_pure.mp finished
      exact known_of_define tallies bound

/-- The types that declarations introduce are recorded in their order. -/
theorem known_of_each_discoverOne {declarations : List Document.Declaration}
    {introduced : List Bool} (tallies : Tallies before)
    (ran : (Action.each discoverOne declarations).Yields before introduced after) :
    after.known = (recordAll
      ((declarations.flatMap Document.Declaration.bindings).map Prod.snd) before).known := by
  induction declarations generalizing before introduced with
  | nil =>
      obtain ⟨-, rfl⟩ := yields_actionPure.mp ran
      rfl
  | cons declaration rest ih =>
      simp only [Action.each, yields_bind, yields_actionPure] at ran
      obtain ⟨first, middle, bound, others, last, each, -, rfl⟩ := ran
      rw [ih (tallies.discoverOne bound) each, List.flatMap_cons, List.map_append,
        recordAll_append]
      exact known_recordAll_congr _ (known_of_discoverOne tallies bound)

/-- A document that comes first leaves the types that it introduces, each once, where it was
introduced first. -/
theorem known_of_discover {declarations : List Document.Declaration} {value : Unit}
    (ran : (discover declarations).Yields {} value after) :
    after.known =
      ((declarations.flatMap Document.Declaration.bindings).map Prod.snd).eraseDups := by
  simp only [discover, yields_bind, yields_note] at ran
  obtain ⟨introduced, middle, each, rfl⟩ := ran
  rw [known_of_each_discoverOne tallies_empty each, known_recordAll]
  simp

end NativeBoundary.Registry
