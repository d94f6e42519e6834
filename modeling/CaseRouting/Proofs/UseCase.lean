import CaseRouting.Proofs.Gateway.Run
import CaseRouting.UseCase

/-!
# What use cases answer

A use case asks the gateway that is bound to the source of its request, and passes on what that
answers: a test case as the data that a caller gets, a fault as it is. An update that would change
nothing, and a request for a source without a gateway, are refused before any gateway is asked.
-/

namespace CaseRouting

variable {σ α β : Type}

/-- How an action ended, apart from what it logged. -/
def Outcome.ending (o : Outcome σ α) : Except Fault α × σ := (o.result, o.state)

/-- The same ending with something else made of its value. -/
def withValue (g : α → β) (ending : Except Fault α × σ) : Except Fault β × σ :=
  (ending.1.map g, ending.2)

theorem withValue_same (ending : Except Fault α × σ) : withValue (fun a => a) ending = ending := by
  rcases ending with ⟨_ | a, s⟩ <;> rfl

theorem withValue_withValue {γ : Type} (f : α → β) (g : β → γ) (ending : Except Fault α × σ) :
    withValue g (withValue f ending) = withValue (fun a => g (f a)) ending := by
  rcases ending with ⟨_ | a, s⟩ <;> rfl

namespace Action

variable {x : Action σ α} {s : σ}

theorem ending_log_bind (event : Log.Event) (f : Unit → Action σ β) :
    ((log event >>= f) s).ending = (f () s).ending := rfl

theorem ending_reporting (report : Fault → Log.Event) :
    (reporting report x s).ending = (x s).ending := by
  unfold reporting
  rcases x s with ⟨_ | a, t, events⟩ <;> rfl

/-- What follows an action without changing anything or failing shows in the value alone. -/
theorem ending_bind_of_value {f : α → Action σ β} {g : α → β}
    (hf : ∀ a s, (f a s).ending = (.ok (g a), s)) :
    ((x >>= f) s).ending = withValue g (x s).ending := by
  rcases bind_cases x f s with ⟨e, hx, hresult, hstate⟩ | ⟨a, hx, hresult, hstate⟩
  · rw [Outcome.ending, Outcome.ending, hresult, hstate, hx]
    rfl
  · have ha : ((f a (x s).state).result, (f a (x s).state).state) = (.ok (g a), (x s).state) :=
      hf a (x s).state
    rw [Outcome.ending, Outcome.ending, hresult, hstate, hx, ha]
    rfl

theorem ending_bind_pure (g : α → β) :
    ((x >>= fun a => Pure.pure (g a)) s).ending = withValue g (x s).ending :=
  ending_bind_of_value fun _ _ => rfl

theorem ending_bind_log (event : α → Log.Event) (g : α → β) :
    ((x >>= fun a => log (event a) >>= fun _ => Pure.pure (g a)) s).ending =
      withValue g (x s).ending :=
  ending_bind_of_value fun _ _ => rfl

end Action

inductive UseCaseRequest where
  | activate (request : CaseRequest)
  | deactivate (request : CaseRequest)
  | update (request : UpdateRequest)
  | get (request : CaseRequest)
  | list (request : ListRequest)
  deriving DecidableEq

inductive UseCaseReply where
  | receipt (receipt : Receipt)
  | view (c : TestCase)
  | listing (listing : Listing)
  deriving DecidableEq

namespace UseCaseRequest

def source : UseCaseRequest → Source
  | .activate r | .deactivate r | .get r => r.source
  | .update r => r.source
  | .list r => r.source

def call : UseCaseRequest → Call
  | .activate r => .command .activate r.id
  | .deactivate r => .command .deactivate r.id
  | .update r => .command (.update r.changes) r.id
  | .get r => .get r.id
  | .list r => .list r.filter

def isQuery (r : UseCaseRequest) : Bool := r.call.isQuery

def isEmptyUpdate : UseCaseRequest → Bool
  | .update r => r.changes.isEmpty
  | _ => false

def reply (r : UseCaseRequest) : Answer → UseCaseReply
  | .one c =>
    match r with
    | .activate _ | .deactivate _ => .receipt c.receipt
    | _ => .view c
  | .many cs => .listing ⟨r.source, cs, cs.length⟩

/-- The gateways among which the one for a request is found. -/
def slots (routers : Routers σ) (r : UseCaseRequest) : Slots (Gateway σ) :=
  if r.isQuery then routers.queries.slots else routers.commands.slots

end UseCaseRequest

def emptyUpdate : Fault := .refused "update must change at least one field"

namespace Routers

variable {routers : Routers σ} {s : σ}

def serve (routers : Routers σ) : UseCaseRequest → Action σ UseCaseReply
  | .activate r => do return .receipt (← routers.activate r)
  | .deactivate r => do return .receipt (← routers.deactivate r)
  | .update r => do return .view (← routers.update r)
  | .get r => do return .view (← routers.get r)
  | .list r => do return .listing (← routers.list r)

theorem ending_carryOut (routers : Routers σ) (command : Command) (source : Source) (id : String)
    (s : σ) :
    (routers.carryOut command source id s).ending =
      match command.check with
      | .error e => (.error e, s)
      | .ok _ =>
        match routers.commands.slots.get? source with
        | none => (.error (.unbound source), s)
        | some g => (g.command command id s).ending := by
  unfold carryOut Router.select
  rw [Action.ending_reporting, Action.ending_log_bind]
  cases command.check with
  | error e => rfl
  | ok _ =>
    cases routers.commands.slots.get? source with
    | none => rfl
    | some g =>
      rw [Action.ofExcept_ok_bind, Action.ofExcept_ok_bind, Action.ending_log_bind,
        Action.ending_bind_of_value (g := fun c => c) fun _ _ => rfl, withValue_same]

/-- What is made of the value of a gateway is what is made of the answer that holds it. -/
theorem withValue_ask {γ : Type} {slots : Slots (Gateway σ)} {source : Source} {call : Call}
    {ask : Gateway σ → Action σ α} {wrap : α → Answer} {reply : Answer → γ} {f : α → γ}
    (hwrap : ∀ g : Gateway σ, g.answer call = ask g >>= fun a => pure (wrap a))
    (hf : ∀ a, f a = reply (wrap a)) :
    withValue f
        (match slots.get? source with
        | none => (.error (.unbound source), s)
        | some g => (ask g s).ending) =
      match slots.get? source with
      | none => (.error (.unbound source), s)
      | some g => withValue reply (g.answer call s).ending := by
  obtain rfl : f = fun a => reply (wrap a) := funext hf
  cases slots.get? source with
  | none => rfl
  | some g =>
    dsimp only
    rw [hwrap g, Action.ending_bind_pure, withValue_withValue]

theorem ending_select (router : Router (Gateway σ)) (source : Source)
    (ask : Gateway σ → Action σ α) (s : σ) :
    ((Action.ofExcept (router.select source) >>= ask) s).ending =
      match router.slots.get? source with
      | none => (.error (.unbound source), s)
      | some g => (ask g s).ending := by
  unfold Router.select
  cases router.slots.get? source <;> rfl

/-- A request ends as the gateway of its source does, with the data for what that answers. -/
theorem ending_serve (routers : Routers σ) (r : UseCaseRequest) (s : σ) :
    (routers.serve r s).ending =
      if r.isEmptyUpdate then (.error emptyUpdate, s)
      else
        match (r.slots routers).get? r.source with
        | none => (.error (.unbound r.source), s)
        | some g => withValue r.reply (g.answer r.call s).ending := by
  cases r with
  | activate r =>
    simp only [serve, activate, Action.ending_bind_pure, ending_carryOut, withValue_withValue]
    exact withValue_ask (fun _ => rfl) fun _ => rfl
  | deactivate r =>
    simp only [serve, deactivate, Action.ending_bind_pure, ending_carryOut, withValue_withValue]
    exact withValue_ask (fun _ => rfl) fun _ => rfl
  | update r =>
    simp only [serve, update, Action.ending_bind_pure, ending_carryOut, Command.check]
    by_cases hempty : r.changes.isEmpty = true
    · simp only [hempty, UseCaseRequest.isEmptyUpdate, if_true]
      rfl
    · simp only [hempty, UseCaseRequest.isEmptyUpdate]
      exact withValue_ask (fun _ => rfl) fun _ => rfl
  | get r =>
    simp only [serve, get, Action.ending_bind_pure, Action.ending_log_bind, Action.ending_bind_log,
      Action.ending_reporting, ending_select, withValue_withValue]
    exact withValue_ask (fun _ => rfl) fun _ => rfl
  | list r =>
    simp only [serve, list, Action.ending_bind_pure, Action.ending_log_bind,
      Action.ending_bind_log, Action.ending_reporting, ending_select, withValue_withValue]
    exact withValue_ask (fun _ => rfl) fun _ => rfl

section Ways

variable {r : UseCaseRequest} {g : Gateway σ}

theorem ending_serve_of_empty (routers : Routers σ) (s : σ) (h : r.isEmptyUpdate = true) :
    (routers.serve r s).ending = (.error emptyUpdate, s) := by
  rw [ending_serve, if_pos h]

theorem ending_serve_of_unbound (routers : Routers σ) (s : σ) (h : r.isEmptyUpdate = false)
    (hfree : (r.slots routers).get? r.source = none) :
    (routers.serve r s).ending = (.error (.unbound r.source), s) := by
  rw [ending_serve, h, if_neg (by simp), hfree]

theorem ending_serve_of_bound (routers : Routers σ) (s : σ) (h : r.isEmptyUpdate = false)
    (hbound : (r.slots routers).get? r.source = some g) :
    (routers.serve r s).ending = withValue r.reply (g.answer r.call s).ending := by
  rw [ending_serve, h, if_neg (by simp), hbound]

end Ways

end Routers

end CaseRouting
