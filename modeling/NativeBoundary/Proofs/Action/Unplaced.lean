import NativeBoundary.Outcome

/-!
# Outcomes without locations

A problem without its location says what is wrong and with what, but not where.  Taking the location
away from the problem that an action may meet goes along with every way to put actions together, so
what an action made of parts does up to locations is told by what its parts do.
-/

namespace NativeBoundary

def Problem.unplaced (problem : Problem) : Problem := { problem with location := none }

namespace Results

variable {α β : Type}

def unplaced : Except Problem α → Except Problem α
  | .ok value => .ok value
  | .error problem => .error problem.unplaced

@[simp] theorem unplaced_ok (value : α) : unplaced (.ok value) = .ok value := rfl

@[simp] theorem unplaced_pure (value : α) : unplaced (pure value) = pure value := rfl

@[simp] theorem unplaced_error (problem : Problem) :
    unplaced (.error problem : Except Problem α) = .error problem.unplaced := rfl

@[simp] theorem unplaced_unplaced (result : Except Problem α) :
    unplaced (unplaced result) = unplaced result := by
  cases result <;> rfl

@[simp] theorem unplaced_bind (first : Except Problem α) (next : α → Except Problem β) :
    unplaced (first >>= next) = unplaced first >>= fun value => unplaced (next value) := by
  cases first <;> rfl

theorem unplaced_map (change : α → β) (result : Except Problem α) :
    unplaced (change <$> result) = change <$> unplaced result := by
  cases result <;> rfl

@[simp] theorem unplaced_ite (condition : Prop) [Decidable condition]
    (first second : Except Problem α) :
    unplaced (if condition then first else second) =
      if condition then unplaced first else unplaced second :=
  apply_ite unplaced condition first second

/-- Results that are equal without locations succeed with one value, or meet problems of one cause
and one name. -/
theorem unplaced_eq_iff {first second : Except Problem α} :
    unplaced first = unplaced second ↔
      (∃ value, first = .ok value ∧ second = .ok value) ∨
      ∃ problem other, first = .error problem ∧ second = .error other ∧
        problem.cause = other.cause ∧ problem.name = other.name := by
  cases first <;> cases second <;> simp [Problem.unplaced, eq_comm]

end Results

namespace Action

variable {σ τ α β : Type}

def unplaced (action : Action σ α) : Action σ α := fun state =>
  let outcome := action state
  { outcome with result := Results.unplaced outcome.result }

@[simp] theorem unplaced_unplaced (action : Action σ α) :
    action.unplaced.unplaced = action.unplaced := by
  funext state
  simp only [unplaced, Results.unplaced_unplaced]

@[simp] theorem unplaced_pure (value : α) : unplaced (pure value : Action σ α) = pure value := rfl

@[simp] theorem unplaced_actionPure (value : α) :
    unplaced (Action.pure value : Action σ α) = Action.pure value := rfl

@[simp] theorem unplaced_fail (problem : Problem) :
    unplaced (fail problem : Action σ α) = fail problem.unplaced := rfl

@[simp] theorem unplaced_get : unplaced (get : Action σ σ) = get := rfl

@[simp] theorem unplaced_set (state : σ) : unplaced (set state) = set state := rfl

@[simp] theorem unplaced_note (event : Event) :
    unplaced (note event : Action σ Unit) = note event := rfl

@[simp] theorem unplaced_lift (result : Except Problem α) :
    unplaced (lift result : Action σ α) = lift (Results.unplaced result) := rfl

@[simp] theorem unplaced_ite (condition : Prop) [Decidable condition] (first second : Action σ α) :
    unplaced (if condition then first else second) =
      if condition then first.unplaced else second.unplaced :=
  apply_ite unplaced condition first second

@[simp] theorem unplaced_ensure (condition : Bool) (problem : Problem) :
    unplaced (ensure condition problem : Action σ Unit) = ensure condition problem.unplaced := by
  cases condition <;> rfl

@[simp] theorem unplaced_bind (first : Action σ α) (next : α → Action σ β) :
    unplaced (first >>= next) = first.unplaced >>= fun value => (next value).unplaced := by
  funext state
  cases ran : first state with
  | mk result middle events =>
      cases result with
      | error problem =>
          have ranUnplaced : first.unplaced state = ⟨.error problem.unplaced, middle, events⟩ := by
            simp only [unplaced, ran, Results.unplaced_error]
          rw [bind_run_error ranUnplaced, unplaced, bind_run_error ran, Results.unplaced_error]
      | ok value =>
          have ranUnplaced : first.unplaced state = ⟨.ok value, middle, events⟩ := by
            simp only [unplaced, ran, Results.unplaced_ok]
          rw [bind_run_ok ranUnplaced, unplaced, bind_run_ok ran]
          rfl

@[simp] theorem unplaced_onPart (part : τ → σ) (update : σ → τ → τ) (action : Action σ α) :
    unplaced (onPart part update action) = onPart part update action.unplaced := rfl

/-! ## Lists -/

/-- What is done for every item up to locations, is done so for the list. -/
theorem each_unplaced {action : α → Action σ β} {change : α → α}
    (same : ∀ item, action (change item) = (action item).unplaced) (items : List α) :
    each action (items.map change) = (each action items).unplaced := by
  induction items with
  | nil => rfl
  | cons item rest ih =>
      simp only [List.map_cons, each, same, ih, unplaced_bind, unplaced_actionPure]

theorem forAll_unplaced {action : α → Action σ Unit} {change : α → α}
    (same : ∀ item, action (change item) = (action item).unplaced) (items : List α) :
    forAll action (items.map change) = (forAll action items).unplaced := by
  induction items with
  | nil => rfl
  | cons item rest ih => simp only [List.map_cons, forAll, same, ih, unplaced_bind]

end Action

end NativeBoundary
