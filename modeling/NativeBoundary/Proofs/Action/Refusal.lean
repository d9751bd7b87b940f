import NativeBoundary.Proofs.Action.Results
import NativeBoundary.Proofs.Action.Run

/-!
# What refusals tell

A result tells something if the problem that it may be does, and an action does if each of its runs
does, from whatever state.  A sequence tells what all of its parts tell: the first problem ends the
run, and nothing changes it on the way out.
-/

namespace NativeBoundary

variable {σ τ α β : Type} {told other : Problem → Prop}

namespace Results

/-- If a result is a problem, that has the property. -/
def Tells (told : Problem → Prop) (result : Except Problem α) : Prop :=
  ∀ problem, result = .error problem → told problem

theorem tells_ok (value : α) : Tells told (.ok value) := by
  intro problem same
  cases same

theorem tells_error {problem : Problem} (tells : told problem) :
    Tells told (.error problem : Except Problem α) := by
  intro found same
  rw [← Except.error.inj same]
  exact tells

/-- The second part of a sequence runs only on a value of the first one. -/
theorem Tells.bind {result : Except Problem α} {next : α → Except Problem β}
    (tells : Tells told result)
    (tellsNext : ∀ value, result = .ok value → Tells told (next value)) :
    Tells told (result >>= next) := by
  cases result with
  | error problem => exact tells_error (tells problem rfl)
  | ok value => exact tellsNext value rfl

theorem Tells.ite {condition : Prop} [Decidable condition] {first second : Except Problem α}
    (tells : Tells told first) (tellsElse : Tells told second) :
    Tells told (if condition then first else second) := by
  split
  · exact tells
  · exact tellsElse

theorem Tells.mapM {read : α → Except Problem β} {items : List α}
    (tells : ∀ item ∈ items, Tells told (read item)) : Tells told (items.mapM read) := by
  induction items with
  | nil => exact tells_ok []
  | cons item rest ih =>
      obtain ⟨first, others⟩ := List.forall_mem_cons.mp tells
      rw [List.mapM_cons]
      exact first.bind fun _ _ => (ih others).bind fun _ _ => tells_ok _

theorem Tells.mono {result : Except Problem α} (tells : Tells told result)
    (weaker : ∀ problem, told problem → other problem) : Tells other result :=
  fun problem same => weaker problem (tells problem same)

end Results

namespace Action

open Results (Tells)

/-- Each problem in which a run can end has the property. -/
def Blames (told : Problem → Prop) (action : Action σ α) : Prop :=
  ∀ before, Tells told (action before).result

theorem blames_pure (value : α) : Blames told (pure value : Action σ α) :=
  fun _ => Results.tells_ok value

theorem blames_fail {problem : Problem} (tells : told problem) :
    Blames told (fail problem : Action σ α) :=
  fun _ => Results.tells_error tells

theorem blames_lift {result : Except Problem α} (tells : Tells told result) :
    Blames told (lift result : Action σ α) :=
  fun _ => tells

theorem blames_get : Blames told (get : Action σ σ) := fun _ => Results.tells_ok _

theorem blames_set (state : σ) : Blames told (set state) := fun _ => Results.tells_ok ()

theorem blames_note (event : Event) : Blames told (note event : Action σ Unit) :=
  fun _ => Results.tells_ok ()

theorem blames_ensure {problem : Problem} (condition : Bool) (tells : told problem) :
    Blames told (ensure condition problem : Action σ Unit) := by
  cases condition with
  | true => exact blames_pure ()
  | false => exact blames_fail tells

theorem Blames.bind {first : Action σ α} {next : α → Action σ β} (blames : Blames told first)
    (blamesNext : ∀ value, Blames told (next value)) : Blames told (first >>= next) := by
  intro before problem failed
  cases ran : first before with
  | mk result middle events =>
      cases result with
      | error found =>
          rw [bind_run_error ran] at failed
          exact blames before problem (by rw [ran, Except.error.inj failed])
      | ok value =>
          rw [bind_run_ok ran] at failed
          exact blamesNext value middle problem failed

theorem Blames.each {action : α → Action σ β} {items : List α}
    (blames : ∀ item ∈ items, Blames told (action item)) : Blames told (each action items) := by
  induction items with
  | nil => exact blames_pure []
  | cons item rest ih =>
      obtain ⟨first, others⟩ := List.forall_mem_cons.mp blames
      exact first.bind fun _ => (ih others).bind fun _ => blames_pure _

theorem Blames.forAll {action : α → Action σ Unit} {items : List α}
    (blames : ∀ item ∈ items, Blames told (action item)) : Blames told (forAll action items) := by
  induction items with
  | nil => exact blames_pure ()
  | cons item rest ih =>
      obtain ⟨first, others⟩ := List.forall_mem_cons.mp blames
      exact first.bind fun _ => ih others

end Action

end NativeBoundary
