import Mathlib.Order.Defs.Unbundled
import NativeBoundary.Proofs.Action.Run

/-!
# Where runs lead

An action that fails leaves what it did before.  `Leads` relates the state before a run to the state
after it whether or not the run was completed.  For a preorder it is enough to look at single steps.
An atomic action asks all its questions before it changes anything, so if it fails nothing was
changed.
-/

namespace NativeBoundary.Action

variable {σ τ α β : Type} {relation : σ → σ → Prop}

/-- A sequence ends where its first part fails, or else where its second part leads from there. -/
theorem bind_state (first : Action σ α) (next : α → Action σ β) (before : σ) :
    (∃ problem, (first before).result = .error problem ∧
      ((first >>= next) before).state = (first before).state) ∨
    ∃ value, (first before).result = .ok value ∧
      ((first >>= next) before).state = (next value (first before).state).state := by
  cases ran : first before with
  | mk result middle events =>
      cases result with
      | error problem => exact .inl ⟨problem, rfl, by rw [bind_run_error ran]⟩
      | ok value => exact .inr ⟨value, rfl, by rw [bind_run_ok ran]⟩

theorem bind_pure_state (first : Action σ α) (change : α → β) (before : σ) :
    ((first >>= fun value => pure (change value)) before).state = (first before).state := by
  rcases bind_state first (fun value => pure (change value)) before with
    ⟨_, -, ends⟩ | ⟨_, -, ends⟩
  · exact ends
  · exact ends

theorem ensure_state (condition : Bool) (problem : Problem) (before : σ) :
    (ensure condition problem before).state = before := by
  cases condition <;> rfl

/-- The states before and after any run are related. -/
def Leads (relation : σ → σ → Prop) (action : Action σ α) : Prop :=
  ∀ before, relation before (action before).state

theorem Leads.of_yields {action : Action σ α} (leads : Leads relation action) {before after : σ}
    {value : α} (ran : action.Yields before value after) : relation before after :=
  ran.2 ▸ leads before

theorem leads_onPart {part : τ → σ} {update : σ → τ → τ} {whole : τ → τ → Prop}
    {action : Action σ α} (leads : Leads relation action)
    (lifts : ∀ {before inner}, relation (part before) inner → whole before (update inner before)) :
    Leads whole (onPart part update action) :=
  fun before => lifts (leads (part before))

/-- What comes behind a look at the state is told of the state that it saw. -/
theorem leads_get_bind {next : σ → Action σ α}
    (leads : ∀ before, relation before (next before before).state) :
    Leads relation (get >>= next) := by
  intro before
  rw [bind_run_ok (rfl : get before = ⟨.ok before, before, []⟩)]
  exact leads before

section Preorder

variable [IsPreorder σ relation]

/-- An action that leaves the state as it is. -/
theorem leads_of_state_eq {action : Action σ α} (same : ∀ before, (action before).state = before) :
    Leads relation action := by
  intro before
  rw [same before]
  exact refl_of relation before

theorem leads_pure (value : α) : Leads relation (pure value : Action σ α) :=
  leads_of_state_eq fun _ => rfl

theorem leads_fail (problem : Problem) : Leads relation (fail problem : Action σ α) :=
  leads_of_state_eq fun _ => rfl

theorem leads_lift (result : Except Problem α) : Leads relation (lift result) :=
  leads_of_state_eq fun _ => rfl

theorem leads_get : Leads relation (get : Action σ σ) :=
  leads_of_state_eq fun _ => rfl

theorem leads_note (event : Event) : Leads relation (note event) :=
  leads_of_state_eq fun _ => rfl

theorem leads_ensure (condition : Bool) (problem : Problem) :
    Leads relation (ensure condition problem) :=
  leads_of_state_eq (ensure_state condition problem)

theorem Leads.bind {first : Action σ α} {next : α → Action σ β} (leads : Leads relation first)
    (leadsNext : ∀ value, Leads relation (next value)) : Leads relation (first >>= next) := by
  intro before
  rcases bind_state first next before with ⟨_, -, same⟩ | ⟨value, -, same⟩
  · rw [same]
    exact leads before
  · rw [same]
    exact trans_of relation (leads before) (leadsNext value _)

theorem leads_ensure_bind {condition : Bool} {problem : Problem} {next : Unit → Action σ α}
    {before : σ} (leads : relation before (next () before).state) :
    relation before ((ensure condition problem >>= next) before).state := by
  rcases bind_state (ensure condition problem) next before with ⟨_, -, ends⟩ | ⟨_, -, ends⟩
  · rw [ends, ensure_state]
    exact refl_of relation before
  · rw [ends, ensure_state]
    exact leads

theorem Leads.each {action : α → Action σ β} (leads : ∀ item, Leads relation (action item))
    (items : List α) : Leads relation (each action items) := by
  induction items with
  | nil => exact leads_pure []
  | cons item rest ih => exact (leads item).bind fun first => ih.bind fun others => leads_pure _

theorem Leads.forAll {action : α → Action σ Unit} (leads : ∀ item, Leads relation (action item))
    (items : List α) : Leads relation (forAll action items) := by
  induction items with
  | nil => exact leads_pure ()
  | cons item rest ih => exact (leads item).bind fun _ => ih

end Preorder

/-! ## Atomic actions -/

/-- The state does not change. -/
def Quiet (action : Action σ α) : Prop :=
  ∀ before, (action before).state = before

/-- A run that fails leaves the state as it was. -/
def Atomic (action : Action σ α) : Prop :=
  ∀ before problem, (action before).result = .error problem → (action before).state = before

theorem Quiet.atomic {action : Action σ α} (quiet : Quiet action) : Atomic action :=
  fun before _ _ => quiet before

theorem quiet_get : Quiet (get : Action σ σ) := fun _ => rfl

theorem quiet_ensure (condition : Bool) (problem : Problem) :
    Quiet (ensure condition problem : Action σ Unit) :=
  ensure_state condition problem

theorem quiet_fail (problem : Problem) : Quiet (fail problem : Action σ α) := fun _ => rfl

/-- An action that always succeeds has no run to be told of. -/
theorem atomic_of_completes {action : Action σ α}
    (completes : ∀ before, ∃ value, (action before).result = .ok value) : Atomic action := by
  intro before problem failed
  obtain ⟨value, succeeded⟩ := completes before
  rw [succeeded] at failed
  cases failed

/-- Questions may be asked in front of an atomic action. -/
theorem Quiet.bind_atomic {first : Action σ α} {next : α → Action σ β} (quiet : Quiet first)
    (atomic : ∀ value, Atomic (next value)) : Atomic (first >>= next) := by
  intro before problem failed
  cases ran : first before with
  | mk result middle events =>
      have same : middle = before := by
        have kept := quiet before
        rwa [ran] at kept
      cases result with
      | error found => rw [bind_run_error ran, same]
      | ok value =>
          rw [bind_run_ok ran] at failed ⊢
          rw [same] at failed ⊢
          exact atomic value before problem failed

/-- An atomic action leads where its completed runs do. -/
theorem Atomic.leads [IsPreorder σ relation] {action : Action σ α} (atomic : Atomic action)
    (completed : ∀ {before after value}, action.Yields before value after → relation before after) :
    Leads relation action := by
  intro before
  cases result : (action before).result with
  | error problem =>
      rw [atomic before problem result]
      exact refl_of relation before
  | ok value => exact completed ⟨result, rfl⟩

end NativeBoundary.Action
