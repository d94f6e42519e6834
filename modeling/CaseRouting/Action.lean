import CaseRouting.Fault
import CaseRouting.Log.Event

/-!
# Actions

An action works on a state, logs events and ends with a value or a fault. After a fault nothing more
is done, and what was done before it stays done.
-/

namespace CaseRouting

/-- How an action ended. -/
structure Outcome (σ α : Type) where
  result : Except Fault α
  state : σ
  events : List Log.Event

def Action (σ α : Type) : Type := σ → Outcome σ α

namespace Action

variable {σ α β : Type}

def pure (a : α) : Action σ α := fun s => ⟨.ok a, s, []⟩

def bind (x : Action σ α) (f : α → Action σ β) : Action σ β := fun s =>
  match x s with
  | ⟨.ok a, s, events⟩ =>
    let next := f a s
    { next with events := events ++ next.events }
  | ⟨.error fault, s, events⟩ => ⟨.error fault, s, events⟩

instance : Monad (Action σ) where
  pure := pure
  bind := bind

def fail (fault : Fault) : Action σ α := fun s => ⟨.error fault, s, []⟩

def ofExcept (x : Except Fault α) : Action σ α := fun s => ⟨x, s, []⟩

def get : Action σ σ := fun s => ⟨.ok s, s, []⟩

def set (s : σ) : Action σ Unit := fun _ => ⟨.ok (), s, []⟩

def log (event : Log.Event) : Action σ Unit := fun s => ⟨.ok (), s, [event]⟩

def logAll (events : List Log.Event) : Action σ Unit := fun s => ⟨.ok (), s, events⟩

/-- Logs the fault, if there is one, and passes it on. -/
def reporting (report : Fault → Log.Event) (x : Action σ α) : Action σ α := fun s =>
  match x s with
  | ⟨.error fault, s, events⟩ => ⟨.error fault, s, events ++ [report fault]⟩
  | done => done

/-- An action on a part of a larger state. -/
def within {τ : Type} (part : τ → σ) (replace : σ → τ → τ) (x : Action σ α) : Action τ α := fun t =>
  let done := x (part t)
  ⟨done.result, replace done.state t, done.events⟩

end Action

end CaseRouting
