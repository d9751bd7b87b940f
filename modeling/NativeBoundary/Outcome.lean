import NativeBoundary.Problem
import NativeBoundary.Tag

/-!
# Actions on a state

An action works on a state and either yields a value or meets a problem. The state that it leaves
is there in both cases: what an action did before it failed stays done. Along the way it notes
events, in the order in which they happen.
-/

namespace NativeBoundary

inductive Event where
  | bound (name : String) (kind : TyKind)
  | discovered (count : Nat)
  | added (kind : DeclarationKind) (name : String)
  | merged (crate : String)
  | resolved (summary : String)
  | derived (space : String)
  | completed (space : String) (functions : Nat)
  deriving DecidableEq, Repr

structure Outcome (σ α : Type) where
  result : Except Problem α
  state : σ
  events : List Event

def Action (σ α : Type) : Type := σ → Outcome σ α

namespace Action

variable {σ τ α β : Type}

def run (action : Action σ α) (state : σ) : Outcome σ α := action state

protected def pure (value : α) : Action σ α := fun state => ⟨.ok value, state, []⟩

protected def bind (first : Action σ α) (next : α → Action σ β) : Action σ β := fun state =>
  match first state with
  | ⟨.ok value, middle, events⟩ =>
      let rest := next value middle
      ⟨rest.result, rest.state, events ++ rest.events⟩
  | ⟨.error problem, middle, events⟩ => ⟨.error problem, middle, events⟩

instance : Monad (Action σ) where
  pure := Action.pure
  bind := Action.bind

def fail (problem : Problem) : Action σ α := fun state => ⟨.error problem, state, []⟩

def get : Action σ σ := fun state => ⟨.ok state, state, []⟩

def set (state : σ) : Action σ Unit := fun _ => ⟨.ok (), state, []⟩

def modify (change : σ → σ) : Action σ Unit := fun state => ⟨.ok (), change state, []⟩

def note (event : Event) : Action σ Unit := fun state => ⟨.ok (), state, [event]⟩

/-- A result that does not touch the state. -/
def lift (result : Except Problem α) : Action σ α := fun state => ⟨result, state, []⟩

/-- Fails with the problem unless the condition holds. -/
def ensure (condition : Bool) (problem : Problem) : Action σ Unit :=
  if condition then Action.pure () else fail problem

/-- Performs an action for each item in turn and collects the values. -/
def each (action : α → Action σ β) : List α → Action σ (List β)
  | [] => Action.pure []
  | item :: rest => do
      let first ← action item
      let others ← each action rest
      Action.pure (first :: others)

def forAll (action : α → Action σ Unit) : List α → Action σ Unit
  | [] => Action.pure ()
  | item :: rest => do
      action item
      forAll action rest

/-- An action on a part of a larger state. -/
def onPart (part : τ → σ) (update : σ → τ → τ) (action : Action σ α) : Action τ α := fun state =>
  let outcome := action (part state)
  ⟨outcome.result, update outcome.state state, outcome.events⟩

theorem bind_run_ok {first : Action σ α} {next : α → Action σ β} {state middle : σ} {value : α}
    {events : List Event} (ran : first state = ⟨.ok value, middle, events⟩) :
    (first >>= next) state =
      ⟨(next value middle).result, (next value middle).state,
        events ++ (next value middle).events⟩ := by
  change Action.bind first next state = _
  simp only [Action.bind, ran]

theorem bind_run_error {first : Action σ α} {next : α → Action σ β} {state middle : σ}
    {problem : Problem} {events : List Event}
    (ran : first state = ⟨.error problem, middle, events⟩) :
    (first >>= next) state = ⟨.error problem, middle, events⟩ := by
  change Action.bind first next state = _
  simp only [Action.bind, ran]

end Action

end NativeBoundary
