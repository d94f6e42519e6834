import CaseRouting.Gateway
import CaseRouting.Proofs.Action
import CaseRouting.Proofs.TestCase.Basic

/-!
# Runs of calls

A run is a sequence of calls, each with the time at which it was made. What every call keeps, the
run keeps. Two gateways whose states stay related in a way that makes each answer the same give the
same answers along every run. A store is a gateway that takes new test cases as well.
-/

namespace CaseRouting

inductive Call where
  | command (command : Command) (id : String)
  | get (id : String)
  | list (filter : Filter)
  deriving DecidableEq

def Call.isQuery : Call → Bool
  | .get _ | .list _ => true
  | .command _ _ => false

inductive Answer where
  | one (c : TestCase)
  | many (cs : List TestCase)
  deriving DecidableEq

structure Step where
  now : Instant
  call : Call
  deriving DecidableEq

variable {σ : Type}

def Gateway.answer (g : Gateway σ) : Call → Action σ Answer
  | .command command id => do
    let c ← g.command command id
    pure (.one c)
  | .get id => do
    let c ← g.get id
    pure (.one c)
  | .list filter => do
    let cs ← g.list filter
    pure (.many cs)

theorem Gateway.answer_within {τ : Type} (part : τ → σ) (replace : σ → τ → τ) (g : Gateway σ)
    (call : Call) : (g.within part replace).answer call = (g.answer call).within part replace := by
  cases call <;> exact Action.within_bind_pure part replace _

def outcomes (g : Instant → Gateway σ) (s : σ) : List Step → List (Outcome σ Answer)
  | [] => []
  | step :: rest =>
    let done := (g step.now).answer step.call s
    done :: outcomes g done.state rest

def results (g : Instant → Gateway σ) (s : σ) (run : List Step) : List (Except Fault Answer) :=
  (outcomes g s run).map Outcome.result

section Trails

variable {ι τ α β : Type}

/-- How the actions of a sequence end, each begun where the one before it ended. -/
def trail (act : ι → Action σ α) (s : σ) : List ι → List (Outcome σ α)
  | [] => []
  | i :: rest => act i s :: trail act (act i s).state rest

theorem outcomes_eq_trail (g : Instant → Gateway σ) (s : σ) (run : List Step) :
    outcomes g s run = trail (fun step => (g step.now).answer step.call) s run := by
  induction run generalizing s with
  | nil => rfl
  | cons step rest ih =>
    rw [outcomes, trail]
    exact congrArg _ (ih _)

/-- One action of a sequence, the state in which it began, and how it ended. -/
structure Transition (σ ι α : Type) where
  before : σ
  step : ι
  done : Outcome σ α

def transitions (act : ι → Action σ α) (s : σ) : List ι → List (Transition σ ι α)
  | [] => []
  | i :: rest => ⟨s, i, act i s⟩ :: transitions act (act i s).state rest

theorem trail_eq_map_transitions (act : ι → Action σ α) (s : σ) (run : List ι) :
    trail act s run = (transitions act s run).map Transition.done := by
  induction run generalizing s with
  | nil => rfl
  | cons i rest ih => rw [trail, transitions, List.map_cons, ih]

/-- What holds at first and is kept by every action holds before and after each of them. -/
theorem transitions_invariant {act : ι → Action σ α} {P : σ → Prop} {run : List ι} {s : σ}
    (hs : P s) (hstep : ∀ i ∈ run, ∀ s, P s → P (act i s).state) :
    ∀ t ∈ transitions act s run, t.done = act t.step t.before ∧ P t.before ∧ P t.done.state := by
  induction run generalizing s with
  | nil => simp [transitions]
  | cons i rest ih =>
    have hnext := hstep i List.mem_cons_self s hs
    rw [transitions]
    intro t ht
    rcases List.mem_cons.mp ht with rfl | ht
    · exact ⟨rfl, hs, hnext⟩
    · exact ih hnext (fun i hmem => hstep i (List.mem_cons_of_mem _ hmem)) t ht

/-- What holds at first and is kept by every call of a run holds after each of them. -/
theorem outcomes_invariant {g : Instant → Gateway σ} {P : σ → Prop} {run : List Step} {s : σ}
    (hs : P s)
    (hstep : ∀ step ∈ run, ∀ s, P s → P ((g step.now).answer step.call s).state) :
    ∀ o ∈ outcomes g s run, P o.state := by
  intro o ho
  rw [outcomes_eq_trail, trail_eq_map_transitions] at ho
  obtain ⟨t, ht, rfl⟩ := List.mem_map.mp ho
  exact (transitions_invariant hs hstep t ht).2.2

/-- States that are related give the same result, and the states after it are related again. -/
def Agree (R : σ → τ → Prop) (x : Action σ α) (y : Action τ α) : Prop :=
  ∀ s t, R s t → (x s).result = (y t).result ∧ R (x s).state (y t).state

namespace Agree

variable {R : σ → τ → Prop} {x : Action σ α} {y : Action τ α}

theorem pure (a : α) : Agree R (Pure.pure a) (Pure.pure a) := fun _ _ h => ⟨rfl, h⟩

theorem fail (e : Fault) : Agree R (Action.fail e : Action σ α) (Action.fail e) :=
  fun _ _ h => ⟨rfl, h⟩

theorem ofExcept (e : Except Fault α) : Agree R (Action.ofExcept e) (Action.ofExcept e) :=
  fun _ _ h => ⟨rfl, h⟩

theorem log (event : Log.Event) : Agree R (Action.log event) (Action.log event) :=
  fun _ _ h => ⟨rfl, h⟩

theorem bind {f : α → Action σ β} {g : α → Action τ β} (hxy : Agree R x y)
    (hfg : ∀ a, Agree R (f a) (g a)) : Agree R (x >>= f) (y >>= g) := by
  intro s t h
  obtain ⟨hresult, hstate⟩ := hxy s t h
  cases hx : (x s).result with
  | error e =>
    have hy : (y t).result = .error e := hresult.symm.trans hx
    rw [Action.result_bind_of_error hx, Action.result_bind_of_error hy,
      Action.state_bind_of_error hx, Action.state_bind_of_error hy]
    exact ⟨rfl, hstate⟩
  | ok a =>
    have hy : (y t).result = .ok a := hresult.symm.trans hx
    rw [Action.result_bind_of_ok hx, Action.result_bind_of_ok hy, Action.state_bind_of_ok hx,
      Action.state_bind_of_ok hy]
    exact hfg a _ _ hstate

theorem bind_pure (hxy : Agree R x y) (f : α → β) :
    Agree R (x >>= fun a => Pure.pure (f a)) (y >>= fun a => Pure.pure (f a)) :=
  hxy.bind fun a => pure (f a)

theorem forM {x : ι → Action σ PUnit} {y : ι → Action τ PUnit} {is : List ι}
    (h : ∀ i ∈ is, Agree R (x i) (y i)) : Agree R (is.forM x) (is.forM y) := by
  induction is with
  | nil => exact pure _
  | cons i is ih =>
    obtain ⟨hi, his⟩ := List.forall_mem_cons.mp h
    exact hi.bind fun _ => ih his

end Agree

theorem results_trail_eq {R : σ → τ → Prop} {x : ι → Action σ α} {y : ι → Action τ α}
    {run : List ι} (hstep : ∀ i ∈ run, Agree R (x i) (y i)) {s : σ} {t : τ} (h : R s t) :
    (trail x s run).map Outcome.result = (trail y t run).map Outcome.result := by
  induction run generalizing s t with
  | nil => rfl
  | cons i rest ih =>
    obtain ⟨hhead, hrest⟩ := List.forall_mem_cons.mp hstep
    obtain ⟨hresult, hstate⟩ := hhead s t h
    rw [trail, trail, List.map_cons, List.map_cons, hresult, ih hrest hstate]

theorem results_eq {R : σ → τ → Prop} {g : Instant → Gateway σ} {k : Instant → Gateway τ}
    {run : List Step}
    (hstep : ∀ step ∈ run,
      Agree R ((g step.now).answer step.call) ((k step.now).answer step.call))
    {s : σ} {t : τ} (h : R s t) : results g s run = results k t run := by
  unfold results
  rw [outcomes_eq_trail, outcomes_eq_trail]
  exact results_trail_eq hstep h

end Trails

section Stores

structure Store (σ : Type) extends Gateway σ where
  insert : TestCase → Action σ Unit

inductive Operation where
  | insert (c : TestCase)
  | call (call : Call)
  deriving DecidableEq

def Operation.isQuery : Operation → Bool
  | .call (.get _) | .call (.list _) => true
  | .call (.command _ _) | .insert _ => false

def Operation.HasStorableTime : Operation → Prop
  | .insert c => c.HasStorableTime
  | .call _ => True

instance (operation : Operation) : Decidable operation.HasStorableTime :=
  match operation with
  | .insert c => inferInstanceAs (Decidable c.HasStorableTime)
  | .call _ => inferInstanceAs (Decidable True)

/-- What an operation on a store answers; an insertion has nothing to tell. -/
def Store.reply (store : Store σ) : Operation → Action σ (Option Answer)
  | .insert c => do
    store.insert c
    pure none
  | .call call => do
    let a ← store.answer call
    pure (some a)

def Store.replies (store : Instant → Store σ) (s : σ) (run : List (Instant × Operation)) :
    List (Except Fault (Option Answer)) :=
  (trail (fun step => (store step.1).reply step.2) s run).map Outcome.result

end Stores

end CaseRouting
