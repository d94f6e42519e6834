import CaseRouting.Proofs.UseCase
import CaseRouting.Sheet.Gateway

/-!
# What the log tells of a command

The use case of a command tells in the log how far it came, around whatever the gateway logs. What
it tells itself is what is logged when the gateways do the same in silence: it depends on what
precludes the call of a gateway, or on the result of that call, and on nothing else.
-/

namespace CaseRouting

open Log (Event)

variable {σ α β : Type}

/-! ## Events of sequences -/

namespace Action

variable {x : Action σ α} {f : α → Action σ β} {s : σ}

theorem events_bind_pure (g : α → β) :
    ((x >>= fun a => Pure.pure (g a)) s).events = (x s).events := by
  cases h : (x s).result with
  | error e => exact events_bind_of_error h
  | ok a => exact (events_bind_of_ok h).trans (List.append_nil _)

theorem events_log_bind (event : Event) (f : Unit → Action σ β) :
    ((log event >>= f) s).events = event :: (f () s).events := rfl

theorem events_reporting (report : Fault → Event) :
    (reporting report x s).events =
      (x s).events ++ match (x s).result with
        | .error e => [report e]
        | .ok _ => [] := by
  unfold reporting
  rcases x s with ⟨_ | a, t, events⟩
  · rfl
  · exact (List.append_nil events).symm

def silenced (x : Action σ α) : Action σ α := fun s => { x s with events := [] }

theorem ending_silenced_bind_pure (g : α → β) :
    ((x.silenced >>= fun a => Pure.pure (g a)) s).ending =
      ((x >>= fun a => Pure.pure (g a)) s).ending := by
  rw [ending_bind_pure, ending_bind_pure]
  rfl

end Action

/-! ## Gateways in silence -/

def Gateway.silenced (g : Gateway σ) : Gateway σ where
  command c id := (g.command c id).silenced
  get id := (g.get id).silenced
  list f := (g.list f).silenced

def Slots.silenced (slots : Slots (Gateway σ)) : Slots (Gateway σ) where
  sheet := slots.sheet.map Gateway.silenced
  tracker := slots.tracker.map Gateway.silenced
  database := slots.database.map Gateway.silenced

theorem Slots.get?_silenced (slots : Slots (Gateway σ)) (source : Source) :
    slots.silenced.get? source = (slots.get? source).map Gateway.silenced := by
  cases source <;> rfl

theorem Gateway.ending_answer_silenced (g : Gateway σ) (call : Call) (s : σ) :
    (g.silenced.answer call s).ending = (g.answer call s).ending := by
  cases call <;> exact Action.ending_silenced_bind_pure _

/-! ## What is told -/

def messages (log : List Event) : List String := log.map Event.message

namespace UseCase

variable {u : UseCase} {stage : Stage} {stages : List Stage} {told : List Event} {e : Fault}

def steps (u : UseCase) : List String :=
  [Stage.received, .resolved, .executed, .done].map u.message

theorem message_injective (u : UseCase) : Function.Injective u.message := by
  intro a b h
  have htext : a.text = b.text :=
    (String.append_right_inj _).mp ((String.append_left_inj _).mp h)
  cases a <;> cases b <;> first | rfl | exact absurd htext (by decide)

/-- Only the category of a fault decides whether it is told as a rejection or a failure. -/
theorem failure_told (u : UseCase) (e : Fault) :
    ((u.failure e).level, (u.failure e).message) =
      if e.category = .business then (.info, u.message .rejected)
      else (.error, u.message .failed) := by
  unfold failure
  split <;> rfl

/-- How a command may go: what comes of the call to its gateway, if it is made, how the use case
ends, and what it tells on the way. -/
inductive Course (u : UseCase) :
    Option (Except Fault α) → Except Fault β → List Event → Prop where
  | precluded (e : Fault) (asked : List (String × Log.Datum)) :
    Course u none (.error e) [u.event .debug .received asked, u.failure e]
  | failed (e : Fault) (asked found : List (String × Log.Datum)) :
    Course u (some (.error e)) (.error e)
      [u.event .debug .received asked, u.event .debug .resolved found, u.failure e]
  | succeeded (a : α) (b : β) (asked found executed done : List (String × Log.Datum)) :
    Course u (some (.ok a)) (.ok b)
      [u.event .debug .received asked, u.event .debug .resolved found,
        u.event .debug .executed executed, u.event .info .done done]

/-- A log that tells truly how a command went. -/
structure Tells (u : UseCase) (resolved executed : Prop) (result : Except Fault α)
    (own : List Event) : Prop where
  of_ok : ∀ a, result = .ok a → messages own = u.steps
  of_error : ∀ e, result = .error e → ∃ told last, own = told ++ [last] ∧
    messages told <+: u.steps ∧ (last.level, last.message) =
      if e.category = .business then (.info, u.message .rejected) else (.error, u.message .failed)
  complete_iff : u.steps ⊆ messages own ↔ ∃ a, result = .ok a
  resolved_iff : u.message .resolved ∈ messages own ↔ resolved
  executed_iff : u.message .executed ∈ messages own ↔ executed

theorem mem_messages_of_failure (h : messages told = stages.map u.message)
    (hrejected : stage ≠ .rejected) (hfailed : stage ≠ .failed) :
    u.message stage ∈ messages (told ++ [u.failure e]) ↔ stage ∈ stages := by
  have hlast : u.message stage ≠ (u.failure e).message := by
    intro heq
    have htold := congrArg Prod.snd (failure_told u e)
    split at htold
    · exact hrejected (u.message_injective (heq.trans htold))
    · exact hfailed (u.message_injective (heq.trans htold))
  simp only [messages, List.map_append, List.map_singleton, List.mem_append, List.mem_singleton,
    hlast, or_false]
  rw [← messages, h, List.mem_map_of_injective u.message_injective]

theorem tells_of_failure {resolved executed : Prop} {own : List Event} (stages : List Stage)
    (hlast : own.getLast? = some (u.failure e))
    (hbefore : messages own.dropLast = stages.map u.message)
    (hstages : stages <+: [.received, .resolved]) (hresolved : .resolved ∈ stages ↔ resolved)
    (hexecuted : ¬executed) : u.Tells resolved executed (.error e : Except Fault α) own := by
  obtain ⟨told, rfl⟩ := List.getLast?_eq_some_iff.mp hlast
  rw [List.dropLast_concat] at hbefore
  have hexecuting : Stage.executed ∉ stages := fun hmem => absurd (hstages.subset hmem) (by decide)
  have hmem (stage : Stage) (hrejected : stage ≠ .rejected) (hfailed : stage ≠ .failed) :
      u.message stage ∈ messages (told ++ [u.failure e]) ↔ stage ∈ stages :=
    mem_messages_of_failure hbefore hrejected hfailed
  constructor
  case of_ok => exact fun a ha => absurd ha (by simp)
  case of_error =>
    rintro _ ⟨⟩
    refine ⟨told, _, rfl, ?_, failure_told u e⟩
    rw [hbefore]
    exact (hstages.trans (List.prefix_append _ [.executed, .done])).map u.message
  case complete_iff =>
    refine iff_of_false (fun hall => ?_) (by simp)
    have hstep : u.message .executed ∈ u.steps := List.mem_map_of_mem (by decide)
    exact hexecuting ((hmem .executed (by decide) (by decide)).mp (hall hstep))
  case resolved_iff => rw [hmem .resolved (by decide) (by decide), hresolved]
  case executed_iff =>
    rw [hmem .executed (by decide) (by decide)]
    exact iff_of_false hexecuting hexecuted

theorem tells_of_success {resolved executed : Prop} {a : α} {own : List Event}
    (h : messages own = u.steps) (hresolved : resolved) (hexecuted : executed) :
    u.Tells resolved executed (.ok a) own where
  of_ok _ _ := h
  of_error e he := absurd he (by simp)
  complete_iff := iff_of_true (h ▸ fun _ hmem => hmem) ⟨a, rfl⟩
  resolved_iff := iff_of_true (h ▸ List.mem_map_of_mem (by decide)) hresolved
  executed_iff := iff_of_true (h ▸ List.mem_map_of_mem (by decide)) hexecuted

theorem Course.tells {call : Option (Except Fault α)} {result : Except Fault β}
    {own : List Event} (h : u.Course call result own) :
    u.Tells (∃ outcome, call = some outcome) (∃ a, call = some (.ok a)) result own := by
  cases h with
  | precluded e asked =>
    exact tells_of_failure [.received] rfl rfl (by decide) (by simp) (by simp)
  | failed e asked found =>
    exact tells_of_failure [.received, .resolved] rfl rfl (by decide) (by simp) (by simp)
  | succeeded a b asked found executed done =>
    exact tells_of_success rfl ⟨_, rfl⟩ ⟨a, rfl⟩

end UseCase

namespace Routers

def silenced (routers : Routers σ) : Routers σ where
  commands := ⟨routers.commands.slots.silenced⟩
  queries := ⟨routers.queries.slots.silenced⟩

/-- What the use case of a request logs itself. -/
def ownLog (routers : Routers σ) (r : UseCaseRequest) (s : σ) : List Event :=
  (routers.silenced.serve r s).events

/-- The call that a request makes to the gateway of its source, if it comes to that. -/
def gatewayCall? (routers : Routers σ) (r : UseCaseRequest) (s : σ) : Option (Outcome σ Answer) :=
  if r.isEmptyUpdate then none
  else ((r.slots routers).get? r.source).map fun g => g.answer r.call s

/-- What is told of a command when its gateway has answered. -/
def told (command : Command) (source : Source) : Except Fault TestCase → List Event
  | .error e => [command.useCase.failure e]
  | .ok c => [command.useCase.event .debug .executed [sourceDatum source],
      command.useCase.event .info .done (sourceDatum source :: command.summary c)]

/-- What a command logs, in the order of its steps. -/
theorem events_carryOut (routers : Routers σ) (command : Command) (source : Source) (id : String)
    (s : σ) :
    (routers.carryOut command source id s).events =
      command.useCase.event .debug .received [sourceDatum source, ("test_case_id", .shown id)] ::
        match command.check with
        | .error e => [command.useCase.failure e]
        | .ok _ =>
          match routers.commands.slots.get? source with
          | none => [command.useCase.failure (.unbound source)]
          | some g =>
            command.useCase.event .debug .resolved [sourceDatum source] ::
              ((g.command command id s).events ++
                told command source (g.command command id s).result) := by
  unfold carryOut Router.select
  rw [Action.events_reporting, Action.events_log_bind, Action.result_log_bind]
  cases command.check with
  | error e => rfl
  | ok _ =>
    cases routers.commands.slots.get? source with
    | none => rfl
    | some g =>
      simp only [Action.ofExcept_ok_bind, Action.events_log_bind, Action.result_log_bind]
      cases hresult : (g.command command id s).result with
      | error e =>
        rw [Action.events_bind_of_error hresult, Action.result_bind_of_error hresult]
        rfl
      | ok c =>
        rw [Action.events_bind_of_ok hresult, Action.result_bind_of_ok hresult]
        exact List.append_nil _

theorem gatewayCall?_made_iff {routers : Routers σ} {r : UseCaseRequest} {s : σ} :
    (∃ outcome, (routers.gatewayCall? r s).map Outcome.result = some outcome) ↔
      r.isEmptyUpdate = false ∧ ∃ g, (r.slots routers).get? r.source = some g := by
  unfold gatewayCall?
  cases r.isEmptyUpdate <;> cases (r.slots routers).get? r.source <;> simp

theorem gatewayCall?_ok_iff {routers : Routers σ} {r : UseCaseRequest} {s : σ} :
    (∃ a, (routers.gatewayCall? r s).map Outcome.result = some (.ok a)) ↔
      ∃ call ∈ routers.gatewayCall? r s, ∃ a, call.result = .ok a := by
  cases routers.gatewayCall? r s <;> simp

end Routers

/-! ## Commands among requests -/

namespace UseCaseRequest

variable {r : UseCaseRequest} {command : Command} {id : String}

def useCase : UseCaseRequest → UseCase
  | .activate _ => .activate
  | .deactivate _ => .deactivate
  | .update _ => .update
  | .get _ => .get
  | .list _ => .list

theorem exists_command_of_isQuery (h : r.isQuery = false) :
    ∃ command id, r.call = .command command id := by
  cases r with
  | activate r => exact ⟨_, _, rfl⟩
  | deactivate r => exact ⟨_, _, rfl⟩
  | update r => exact ⟨_, _, rfl⟩
  | get r => cases h
  | list r => cases h

theorem useCase_of_call (h : r.call = .command command id) : r.useCase = command.useCase := by
  cases r <;> cases h <;> rfl

theorem check_of_call (h : r.call = .command command id) :
    command.check = if r.isEmptyUpdate then .error emptyUpdate else .ok () := by
  cases r <;> cases h <;> rfl

theorem slots_of_call (h : r.call = .command command id) (routers : Routers σ) :
    r.slots routers = routers.commands.slots := by
  cases r <;> cases h <;> rfl

theorem get?_slots_silenced (r : UseCaseRequest) (routers : Routers σ) (source : Source) :
    (r.slots routers.silenced).get? source =
      ((r.slots routers).get? source).map Gateway.silenced := by
  unfold slots
  split <;> exact Slots.get?_silenced _ source

end UseCaseRequest

namespace Routers

variable {routers : Routers σ} {r : UseCaseRequest} {command : Command} {id : String}

theorem ending_serve_silenced (routers : Routers σ) (r : UseCaseRequest) (s : σ) :
    (routers.silenced.serve r s).ending = (routers.serve r s).ending := by
  rw [ending_serve, ending_serve, r.get?_slots_silenced]
  cases (r.slots routers).get? r.source with
  | none => rfl
  | some g =>
    dsimp only [Option.map_some]
    rw [g.ending_answer_silenced]

theorem events_serve (h : r.call = .command command id) (routers : Routers σ) (s : σ) :
    (routers.serve r s).events = (routers.carryOut command r.source id s).events := by
  -- A receipt is made of the test case first, then the reply of either; neither step logs.
  cases r with
  | activate r =>
    cases h
    exact (Action.events_bind_pure _).trans (Action.events_bind_pure _)
  | deactivate r =>
    cases h
    exact (Action.events_bind_pure _).trans (Action.events_bind_pure _)
  | update r =>
    cases h
    exact Action.events_bind_pure _
  | get r => cases h
  | list r => cases h

section Ways

variable {s : σ} {g : Gateway σ}

theorem events_serve_of_empty (hcall : r.call = .command command id)
    (h : r.isEmptyUpdate = true) (routers : Routers σ) :
    (routers.serve r s).events =
      [r.useCase.event .debug .received [sourceDatum r.source, ("test_case_id", .shown id)],
        r.useCase.failure emptyUpdate] := by
  rw [events_serve hcall, events_carryOut, UseCaseRequest.check_of_call hcall, if_pos h,
    UseCaseRequest.useCase_of_call hcall]

theorem events_serve_of_unbound (hcall : r.call = .command command id)
    (h : r.isEmptyUpdate = false) (hfree : (r.slots routers).get? r.source = none) :
    (routers.serve r s).events =
      [r.useCase.event .debug .received [sourceDatum r.source, ("test_case_id", .shown id)],
        r.useCase.failure (.unbound r.source)] := by
  rw [UseCaseRequest.slots_of_call hcall] at hfree
  rw [events_serve hcall, events_carryOut, UseCaseRequest.check_of_call hcall, h,
    if_neg (by simp), hfree, UseCaseRequest.useCase_of_call hcall]

theorem events_serve_of_bound (hcall : r.call = .command command id)
    (h : r.isEmptyUpdate = false) (hbound : (r.slots routers).get? r.source = some g) :
    (routers.serve r s).events =
      r.useCase.event .debug .received [sourceDatum r.source, ("test_case_id", .shown id)] ::
        r.useCase.event .debug .resolved [sourceDatum r.source] ::
          ((g.command command id s).events ++
            told command r.source (g.command command id s).result) := by
  rw [UseCaseRequest.slots_of_call hcall] at hbound
  rw [events_serve hcall, events_carryOut, UseCaseRequest.check_of_call hcall, h,
    if_neg (by simp), hbound, UseCaseRequest.useCase_of_call hcall]

/-- A command goes one of its ways, and the log is what the use case tells of it, with what the
gateway logs behind the first two events. -/
structure IsTold (routers : Routers σ) (r : UseCaseRequest) (s : σ) : Prop where
  course : r.useCase.Course ((routers.gatewayCall? r s).map Outcome.result)
    (routers.serve r s).result (routers.ownLog r s)
  events_eq : (routers.serve r s).events = (routers.ownLog r s).take 2 ++
    (routers.gatewayCall? r s).elim [] Outcome.events ++ (routers.ownLog r s).drop 2

theorem isTold_of_empty (hcall : r.call = .command command id) (h : r.isEmptyUpdate = true)
    (routers : Routers σ) (s : σ) : routers.IsTold r s := by
  have hnone : routers.gatewayCall? r s = none := if_pos h
  have hresult : (routers.serve r s).result = .error emptyUpdate :=
    congrArg Prod.fst (ending_serve_of_empty routers s h)
  constructor
  · rw [hnone, hresult, ownLog, events_serve_of_empty hcall h]
    exact .precluded _ _
  · rw [hnone, ownLog, events_serve_of_empty hcall h, events_serve_of_empty hcall h]
    rfl

theorem isTold_of_unbound (hcall : r.call = .command command id) (h : r.isEmptyUpdate = false)
    (hfree : (r.slots routers).get? r.source = none) (s : σ) : routers.IsTold r s := by
  have hnone : routers.gatewayCall? r s = none := by
    rw [gatewayCall?, h, if_neg (by simp), hfree, Option.map_none]
  have hsilent : (r.slots routers.silenced).get? r.source = none := by
    rw [r.get?_slots_silenced, hfree, Option.map_none]
  have hresult : (routers.serve r s).result = .error (.unbound r.source) :=
    congrArg Prod.fst (ending_serve_of_unbound routers s h hfree)
  constructor
  · rw [hnone, hresult, ownLog, events_serve_of_unbound hcall h hsilent]
    exact .precluded _ _
  · rw [hnone, ownLog, events_serve_of_unbound hcall h hsilent,
      events_serve_of_unbound hcall h hfree]
    rfl

theorem course_told (command : Command) (source : Source) (asked found : List (String × Log.Datum))
    (outcome : Except Fault TestCase) (reply : Answer → UseCaseReply) :
    command.useCase.Course (some (outcome.map Answer.one)) ((outcome.map Answer.one).map reply)
      (command.useCase.event .debug .received asked ::
        command.useCase.event .debug .resolved found :: told command source outcome) := by
  cases outcome with
  | error e => exact .failed e _ _
  | ok c => exact .succeeded _ _ _ _ _ _

theorem isTold_of_bound (hcall : r.call = .command command id) (h : r.isEmptyUpdate = false)
    (hbound : (r.slots routers).get? r.source = some g) (s : σ) : routers.IsTold r s := by
  have hmade : routers.gatewayCall? r s = some (g.answer (.command command id) s) := by
    rw [gatewayCall?, h, if_neg (by simp), hbound, Option.map_some, hcall]
  have hsilent : (r.slots routers.silenced).get? r.source = some g.silenced := by
    rw [r.get?_slots_silenced, hbound, Option.map_some]
  have hanswer : (g.answer (.command command id) s).result =
      (g.command command id s).result.map .one :=
    congrArg Prod.fst (Action.ending_bind_pure _)
  have hcalled : (g.answer (.command command id) s).events = (g.command command id s).events :=
    Action.events_bind_pure _
  have hresult : (routers.serve r s).result =
      ((g.command command id s).result.map .one).map r.reply := by
    rw [← hanswer, ← hcall]
    exact congrArg Prod.fst (ending_serve_of_bound routers s h hbound)
  have hown := events_serve_of_bound hcall h hsilent (s := s)
  constructor
  · rw [hmade, Option.map_some, hanswer, hresult, ownLog, hown, UseCaseRequest.useCase_of_call hcall]
    exact course_told command r.source _ _ _ _
  · rw [hmade, Option.elim_some, hcalled, ownLog, hown, events_serve_of_bound hcall h hbound]
    rfl

end Ways

theorem isTold_serve (hcall : r.call = .command command id) (routers : Routers σ) (s : σ) :
    routers.IsTold r s := by
  cases hempty : r.isEmptyUpdate with
  | true => exact isTold_of_empty hcall hempty routers s
  | false =>
    cases hslot : (r.slots routers).get? r.source with
    | none => exact isTold_of_unbound hcall hempty hslot s
    | some g => exact isTold_of_bound hcall hempty hslot s

/-- The log of an activation, a deactivation or an update tells truly how it went. -/
theorem command_log_is_faithful (routers : Routers σ) {r : UseCaseRequest}
    (h : r.isQuery = false) (s : σ) :
    (routers.silenced.serve r s).ending = (routers.serve r s).ending ∧
      (routers.serve r s).events = (routers.ownLog r s).take 2 ++
        (routers.gatewayCall? r s).elim [] Outcome.events ++ (routers.ownLog r s).drop 2 ∧
      r.useCase.Tells
        (r.isEmptyUpdate = false ∧ ∃ g, (r.slots routers).get? r.source = some g)
        (∃ call ∈ routers.gatewayCall? r s, ∃ a, call.result = .ok a)
        (routers.serve r s).result (routers.ownLog r s) := by
  obtain ⟨command, id, hcall⟩ := UseCaseRequest.exists_command_of_isQuery h
  obtain ⟨hcourse, hevents⟩ := isTold_serve hcall routers s
  refine ⟨routers.ending_serve_silenced r s, hevents, ?_⟩
  have htells := hcourse.tells
  rwa [gatewayCall?_made_iff, gatewayCall?_ok_iff] at htells

def sheetRouters : Routers Files.MemoryFile :=
  let slots := Slots.empty.put .sheet (Sheet.gateway Files.memory "cases.csv" (.startOfYear 2024))
  ⟨⟨slots⟩, ⟨slots⟩⟩

def missingCase : UseCaseRequest := .activate ⟨"t1", .sheet⟩

def emptySheet : Files.MemoryFile := ⟨some (Sheet.encode []), none, 0⟩

theorem log_of_missingCase_is_faithful :
    missingCase.isQuery = false ∧
      messages (sheetRouters.serve missingCase emptySheet).events =
        ["Activate test case: received.", "Activate test case: gateway resolved.",
          "Loaded CSV test cases", "Activate test case: rejected."] ∧
      missingCase.useCase.Tells
        (missingCase.isEmptyUpdate = false ∧
          ∃ g, (missingCase.slots sheetRouters).get? missingCase.source = some g)
        (∃ call ∈ sheetRouters.gatewayCall? missingCase emptySheet, ∃ a, call.result = .ok a)
        (sheetRouters.serve missingCase emptySheet).result
        (sheetRouters.ownLog missingCase emptySheet) :=
  ⟨rfl, by decide +kernel, (command_log_is_faithful sheetRouters rfl emptySheet).2.2⟩

end Routers

end CaseRouting
