import NativeBoundary.Outcome

/-!
# Completed runs

A run of an action is completed when it ends with a value.  `Yields` relates the state before such a
run to its value and the state after it; a sequence is completed exactly when its parts are, one
after the other, so a completed run of a whole action can be taken apart from the front.
-/

namespace NativeBoundary.Action

variable {σ τ α β : Type}

def Yields (action : Action σ α) (before : σ) (value : α) (after : σ) : Prop :=
  (action before).result = .ok value ∧ (action before).state = after

@[simp] theorem yields_pure {given value : α} {before after : σ} :
    (pure given : Action σ α).Yields before value after ↔ value = given ∧ after = before := by
  constructor
  · rintro ⟨same, rfl⟩
    exact ⟨(Except.ok.inj same).symm, rfl⟩
  · rintro ⟨rfl, rfl⟩
    exact ⟨rfl, rfl⟩

@[simp] theorem yields_actionPure {given value : α} {before after : σ} :
    (Action.pure given : Action σ α).Yields before value after ↔ value = given ∧ after = before :=
  yields_pure

theorem yields_bind {first : Action σ α} {next : α → Action σ β} {before after : σ}
    {value : β} :
    (first >>= next).Yields before value after ↔
      ∃ given middle, first.Yields before given middle ∧
        (next given).Yields middle value after := by
  cases ran : first before with
  | mk result middle events =>
      cases result with
      | error problem =>
          unfold Yields
          rw [bind_run_error ran]
          simp [ran]
      | ok given =>
          unfold Yields
          rw [bind_run_ok ran, ran]
          constructor
          · intro finished
            exact ⟨given, middle, ⟨rfl, rfl⟩, finished⟩
          · rintro ⟨_, _, ⟨⟨⟩, rfl⟩, finished⟩
            exact finished

theorem yields_bind_unit {first : Action σ Unit} {next : Unit → Action σ β} {before after : σ}
    {value : β} :
    (first >>= next).Yields before value after ↔
      ∃ middle, first.Yields before () middle ∧ (next ()).Yields middle value after := by
  rw [yields_bind]
  constructor
  · rintro ⟨_, middle, ran, rest⟩
    exact ⟨middle, ran, rest⟩
  · rintro ⟨middle, ran, rest⟩
    exact ⟨(), middle, ran, rest⟩

@[simp] theorem yields_fail {problem : Problem} {before after : σ} {value : α} :
    (fail problem : Action σ α).Yields before value after ↔ False := by
  simp [Yields, fail]

@[simp] theorem yields_get {before value after : σ} :
    (get : Action σ σ).Yields before value after ↔ value = before ∧ after = before := by
  simp [Yields, get, eq_comm]

@[simp] theorem yields_set {given before after : σ} {value : Unit} :
    (set given).Yields before value after ↔ after = given := by
  simp [Yields, set, eq_comm]

@[simp] theorem yields_modify {change : σ → σ} {before after : σ} {value : Unit} :
    (modify change).Yields before value after ↔ after = change before := by
  simp [Yields, modify, eq_comm]

@[simp] theorem yields_note {event : Event} {before after : σ} {value : Unit} :
    (note event).Yields before value after ↔ after = before := by
  simp [Yields, note, eq_comm]

@[simp] theorem yields_lift {result : Except Problem α} {before after : σ} {value : α} :
    (lift result).Yields before value after ↔ result = .ok value ∧ after = before := by
  simp [Yields, lift, eq_comm]

@[simp] theorem yields_ensure {condition : Bool} {problem : Problem} {before after : σ}
    {value : Unit} :
    (ensure condition problem).Yields before value after ↔ condition = true ∧ after = before := by
  cases condition <;> simp [ensure]

@[simp] theorem yields_forAll_nil {action : α → Action σ Unit} {before after : σ} {value : Unit} :
    (forAll action []).Yields before value after ↔ after = before := by
  simp [forAll]

@[simp] theorem yields_forAll_cons {action : α → Action σ Unit} {item : α} {rest : List α}
    {before after : σ} {value : Unit} :
    (forAll action (item :: rest)).Yields before value after ↔
      ∃ middle, (action item).Yields before () middle ∧
        (forAll action rest).Yields middle () after := by
  rw [forAll, yields_bind_unit]

@[simp] theorem yields_onPart {part : τ → σ} {update : σ → τ → τ} {action : Action σ α}
    {before after : τ} {value : α} :
    (onPart part update action).Yields before value after ↔
      ∃ inner, action.Yields (part before) value inner ∧ after = update inner before := by
  constructor
  · rintro ⟨succeeded, rfl⟩
    exact ⟨_, ⟨succeeded, rfl⟩, rfl⟩
  · rintro ⟨_, ⟨succeeded, rfl⟩, rfl⟩
    exact ⟨succeeded, rfl⟩

/-! ## What comes behind a single step -/

section Sequence

variable {before after : σ} {value : β}

@[simp] theorem yields_get_bind {next : σ → Action σ β} :
    (get >>= next).Yields before value after ↔ (next before).Yields before value after := by
  simp [yields_bind, and_assoc]

@[simp] theorem yields_set_bind {given : σ} {next : Unit → Action σ β} :
    (set given >>= next).Yields before value after ↔ (next ()).Yields given value after := by
  simp [yields_bind_unit]

@[simp] theorem yields_modify_bind {change : σ → σ} {next : Unit → Action σ β} :
    (modify change >>= next).Yields before value after ↔
      (next ()).Yields (change before) value after := by
  simp [yields_bind_unit]

@[simp] theorem yields_note_bind {event : Event} {next : Unit → Action σ β} :
    (note event >>= next).Yields before value after ↔ (next ()).Yields before value after := by
  simp [yields_bind_unit]

@[simp] theorem yields_lift_bind {result : Except Problem α} {next : α → Action σ β} :
    (lift result >>= next).Yields before value after ↔
      ∃ given, result = .ok given ∧ (next given).Yields before value after := by
  simp [yields_bind, and_assoc]

@[simp] theorem yields_ensure_bind {condition : Bool} {problem : Problem}
    {next : Unit → Action σ β} :
    (ensure condition problem >>= next).Yields before value after ↔
      condition = true ∧ (next ()).Yields before value after := by
  simp [yields_bind_unit, and_assoc]

@[simp] theorem yields_fail_bind {problem : Problem} {next : α → Action σ β} :
    (fail problem >>= next).Yields before value after ↔ False := by
  simp [yields_bind]

end Sequence

/-- Behind a completed run, the result is that of what comes next. -/
theorem Yields.result_bind {first : Action σ α} {next : α → Action σ β} {before middle : σ}
    {value : α} (ran : first.Yields before value middle) :
    ((first >>= next) before).result = (next value middle).result := by
  obtain ⟨succeeded, rfl⟩ := ran
  cases outcome : first before with
  | mk result middle events =>
      rw [outcome] at succeeded
      cases succeeded
      rw [bind_run_ok outcome]

/-- What every step over a list keeps holds after the whole list. -/
theorem forAll_invariant {action : α → Action σ Unit} {keeps : σ → Prop} {items : List α}
    {before after : σ} {value : Unit}
    (step : ∀ item ∈ items, ∀ first second, (action item).Yields first () second →
      keeps first → keeps second)
    (ran : (forAll action items).Yields before value after) (holds : keeps before) :
    keeps after := by
  induction items generalizing before with
  | nil =>
      rw [yields_forAll_nil] at ran
      rw [ran]
      exact holds
  | cons item rest ih =>
      rw [yields_forAll_cons] at ran
      obtain ⟨middle, first, others⟩ := ran
      have keptFirst := step item List.mem_cons_self before middle first holds
      exact ih (fun other member => step other (List.mem_cons_of_mem item member)) others keptFirst

/-! ## Equal actions -/

theorem lift_ok_bind (value : α) (next : α → Action σ β) :
    (lift (.ok value) >>= next) = next value := rfl

/-- What is done with a result matters only if there is one. -/
theorem lift_bind_congr {result : Except Problem α} {next other : α → Action σ β}
    (same : ∀ value, result = .ok value → next value = other value) :
    (lift result >>= next) = (lift result >>= other) := by
  cases result with
  | error problem => rfl
  | ok value => rw [lift_ok_bind, lift_ok_bind, same value rfl]

theorem forAll_map (action : β → Action σ Unit) (change : α → β) (items : List α) :
    forAll action (items.map change) = forAll (fun item => action (change item)) items := by
  induction items with
  | nil => rfl
  | cons item rest ih => rw [List.map_cons, forAll, forAll, ih]

theorem each_map (action : α → Action σ β) (change : τ → α) (items : List τ) :
    each action (items.map change) = each (fun item => action (change item)) items := by
  induction items with
  | nil => rfl
  | cons item rest ih => rw [List.map_cons, each, each, ih]

end NativeBoundary.Action
