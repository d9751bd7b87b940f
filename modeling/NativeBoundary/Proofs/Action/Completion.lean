import NativeBoundary.Proofs.Action.Run

/-!
# When runs are completed

An action is completed from a state when its run from there ends with a value.  Together with what
completed runs do, this tells exactly which sequences of actions succeed.
-/

namespace NativeBoundary.Action

variable {σ τ α β : Type} {before : σ}

def Completes (action : Action σ α) (before : σ) : Prop :=
  ∃ value after, action.Yields before value after

theorem Yields.completes {action : Action σ α} {value : α} {after : σ}
    (ran : action.Yields before value after) : action.Completes before :=
  ⟨value, after, ran⟩

theorem completes_iff_result {action : Action σ α} :
    action.Completes before ↔ ∃ value, (action before).result = .ok value := by
  constructor
  · rintro ⟨value, after, succeeded, -⟩
    exact ⟨value, succeeded⟩
  · rintro ⟨value, succeeded⟩
    exact ⟨value, _, succeeded, rfl⟩

theorem completes_bind {first : Action σ α} {next : α → Action σ β} :
    (first >>= next).Completes before ↔
      ∃ given middle, first.Yields before given middle ∧ (next given).Completes middle := by
  constructor
  · rintro ⟨value, after, ran⟩
    obtain ⟨given, middle, ranFirst, rest⟩ := yields_bind.mp ran
    exact ⟨given, middle, ranFirst, rest.completes⟩
  · rintro ⟨given, middle, ranFirst, value, after, rest⟩
    exact ⟨value, after, yields_bind.mpr ⟨given, middle, ranFirst, rest⟩⟩

theorem completes_bind_unit {first : Action σ Unit} {next : Unit → Action σ β} :
    (first >>= next).Completes before ↔
      ∃ middle, first.Yields before () middle ∧ (next ()).Completes middle := by
  rw [completes_bind]
  constructor
  · rintro ⟨_, middle, ran, rest⟩
    exact ⟨middle, ran, rest⟩
  · rintro ⟨middle, ran, rest⟩
    exact ⟨(), middle, ran, rest⟩

@[simp] theorem completes_pure {value : α} : (pure value : Action σ α).Completes before ↔ True := by
  simp [Completes]

@[simp] theorem completes_bind_pure {first : Action σ α} {change : α → β} :
    (first >>= fun given => pure (change given)).Completes before ↔ first.Completes before := by
  simp only [completes_bind, completes_pure, and_true]
  rfl

@[simp] theorem completes_note {event : Event} : (note event).Completes before ↔ True := by
  simp [Completes]

@[simp] theorem completes_lift_bind {result : Except Problem α} {next : α → Action σ β} :
    (lift result >>= next).Completes before ↔
      ∃ given, result = .ok given ∧ (next given).Completes before := by
  simp [completes_bind, and_assoc]

@[simp] theorem completes_onPart {part : τ → σ} {update : σ → τ → τ} {action : Action σ α}
    {whole : τ} : (onPart part update action).Completes whole ↔ action.Completes (part whole) := by
  simp only [completes_iff_result]
  rfl

/-- A list of steps is completed exactly if its first step is and the others are from there. -/
theorem completes_forAll_cons {action : α → Action σ Unit} {item : α} {rest : List α} :
    (forAll action (item :: rest)).Completes before ↔
      ∃ middle, (action item).Yields before () middle ∧ (forAll action rest).Completes middle := by
  rw [forAll, completes_bind_unit]

@[simp] theorem completes_forAll_nil {action : α → Action σ Unit} :
    (forAll action []).Completes before ↔ True := by
  simp [Completes]

theorem completes_each_cons {action : α → Action σ β} {item : α} {rest : List α} :
    (each action (item :: rest)).Completes before ↔
      ∃ value middle, (action item).Yields before value middle ∧
        (each action rest).Completes middle := by
  rw [each, completes_bind]
  exact exists_congr fun value => exists_congr fun middle => and_congr_right fun _ =>
    completes_bind_pure

@[simp] theorem completes_each_nil {action : α → Action σ β} :
    (each action []).Completes before ↔ True :=
  completes_pure

end NativeBoundary.Action
