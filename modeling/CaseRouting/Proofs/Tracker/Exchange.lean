import CaseRouting.Proofs.Gateway.Run
import CaseRouting.Proofs.Tracker.Request

/-!
# The requests of a call

A transport can note each request with what came of it, which changes nothing else. By these notes a
query is one request that changes nothing. A command asks for its issue; it sends its change only if
the answer brings a test case that allows it, but then always, and ends as this second request does.
-/

namespace CaseRouting.Tracker

open Connection (accept decodeBody)
open Json (Value)

variable {σ τ : Type} {t : Connection} {now : Instant} {command : Command} {id : String}
  {c d : TestCase} {s : σ}

structure Exchange where
  request : Request
  answer : Except Fault Reply

def Transport.noted (transport : Transport σ) : Transport (σ × List Exchange) :=
  fun request (s, exchanges) =>
    let done := transport request s
    ⟨done.result, (done.state, exchanges ++ [⟨request, done.result⟩]), done.events⟩

/-! ## Transports that agree -/

section Agreement

variable {R : σ → τ → Prop} {x : Transport σ} {y : Transport τ}

theorem agree_accept (id : Option String) (reply : Reply) :
    Agree R (accept id reply) (accept id reply) := by
  unfold accept
  split
  · exact Agree.pure ()
  · exact (Agree.log _).bind fun _ => Agree.fail _

theorem agree_send_accept (h : ∀ request, Agree R (x request) (y request)) (request : Request)
    (id : Option String) :
    Agree R (do let reply ← x request; accept id reply) (do let reply ← y request; accept id reply) :=
  (h request).bind fun reply => agree_accept id reply

theorem agree_fetch (h : ∀ request, Agree R (x request) (y request)) (t : Connection)
    (id : String) : Agree R (t.fetch x id) (t.fetch y id) :=
  (Agree.log _).bind fun _ => (h _).bind fun reply => (agree_accept _ reply).bind fun _ =>
    (Agree.ofExcept _).bind fun _ => Agree.pure _

theorem agree_carryOut (h : ∀ request, Agree R (x request) (y request)) (t : Connection)
    (id : String) (command : Command) :
    Agree R (t.carryOut x id command) (t.carryOut y id command) := by
  cases command with
  | activate => exact (Agree.log _).bind fun _ => agree_send_accept h _ _
  | deactivate => exact (Agree.log _).bind fun _ => agree_send_accept h _ _
  | update changes => exact agree_send_accept h _ _

theorem agree_listCases (h : ∀ request, Agree R (x request) (y request)) (t : Connection)
    (f : Filter) : Agree R (t.listCases x f) (t.listCases y f) :=
  (Agree.log _).bind fun _ => (h _).bind fun reply => (agree_accept _ reply).bind fun _ =>
    (Agree.ofExcept _).bind fun _ => Agree.pure _

theorem agree_answer (h : ∀ request, Agree R (x request) (y request)) (t : Connection)
    (now : Instant) (call : Call) :
    Agree R ((gatewayOver x t now).answer call) ((gatewayOver y t now).answer call) := by
  cases call with
  | command command id =>
    refine Agree.bind_pure ?_ _
    exact (agree_fetch h t id).bind fun _ => (Agree.ofExcept _).bind fun _ =>
      (agree_carryOut h t id command).bind fun _ => Agree.pure _
  | get id => exact (agree_fetch h t id).bind_pure _
  | list f => exact (agree_listCases h t f).bind_pure _

theorem agree_noted (transport : Transport σ) (request : Request) :
    Agree (fun noted s => noted.1 = s) (transport.noted request) (transport request) := by
  rintro ⟨s, exchanges⟩ _ rfl
  exact ⟨rfl, rfl⟩

end Agreement

/-! ## What is asked and what comes of it -/

variable {transport : Transport σ}

def IsAccepted (answer : Except Fault Reply) : Prop :=
  ∃ reply, answer = .ok reply ∧ 200 ≤ reply.status ∧ reply.status < 300

/-- What came of a request is an issue that stands for this test case. -/
def Connection.Brings (t : Connection) (answer : Except Fault Reply) (c : TestCase) : Prop :=
  ∃ reply issue, answer = .ok reply ∧ (200 ≤ reply.status ∧ reply.status < 300) ∧
    Json.decodeBytes Issue.decoder reply.body = .ok issue ∧ issue.toTestCase t.settings = c

theorem isSuccess_iff {reply : Reply} :
    reply.isSuccess = true ↔ 200 ≤ reply.status ∧ reply.status < 300 := by
  simp [Reply.isSuccess]

theorem decodeBody_eq_ok_iff {α : Type} {decoder : Decoder α} {reply : Reply} {a : α} :
    decodeBody decoder reply = .ok a ↔ Json.decodeBytes decoder reply.body = .ok a := by
  unfold decodeBody
  split <;> simp_all

theorem result_accept_eq_ok_iff {subject : Option String} {reply : Reply} :
    (accept subject reply s).result = .ok () ↔ 200 ≤ reply.status ∧ reply.status < 300 := by
  rw [← isSuccess_iff]
  unfold accept
  split <;> simp_all

theorem keepsState_accept (subject : Option String) (reply : Reply) :
    (accept subject reply : Action σ Unit).KeepsState := by
  unfold accept
  split <;> exact fun _ => rfl

theorem result_fetch_eq_ok_iff :
    (t.fetch transport id s).result = .ok c ↔
      t.Brings (transport (t.issueRequest id) s).result c := by
  unfold Connection.fetch Connection.Brings
  simp only [Action.result_log_bind, Action.result_bind_eq_ok_iff, Action.result_ofExcept,
    Action.result_pure, Except.ok.injEq]
  constructor
  · rintro ⟨reply, hreply, _, haccept, issue, hissue, hc⟩
    exact ⟨reply, issue, hreply, result_accept_eq_ok_iff.mp haccept, decodeBody_eq_ok_iff.mp hissue,
      hc⟩
  · rintro ⟨reply, issue, hreply, hsuccess, hissue, hc⟩
    exact ⟨reply, hreply, (), result_accept_eq_ok_iff.mpr hsuccess, issue,
      decodeBody_eq_ok_iff.mpr hissue, hc⟩

theorem state_fetch : (t.fetch transport id s).state = (transport (t.issueRequest id) s).state := by
  unfold Connection.fetch
  rw [Action.state_log_bind]
  refine Action.state_bind_of_keepsState fun reply => (keepsState_accept _ reply).bind fun _ => ?_
  exact (Action.keepsState_ofExcept _).bind fun issue => Action.keepsState_pure _

theorem state_listCases {f : Filter} :
    (t.listCases transport f s).state = (transport (t.searchRequest f) s).state := by
  unfold Connection.listCases Connection.listCasesOf
  rw [Action.state_log_bind]
  refine Action.state_bind_of_keepsState fun reply => (keepsState_accept _ reply).bind fun _ => ?_
  exact (Action.keepsState_ofExcept _).bind fun issues => Action.keepsState_pure _

theorem result_send_accept_eq_ok_iff {subject : Option String} {request : Request} :
    ((do let reply ← transport request; accept subject reply) s).result = .ok () ↔
      IsAccepted (transport request s).result := by
  simp only [Action.result_bind_eq_ok_iff, result_accept_eq_ok_iff, IsAccepted]

theorem state_send_accept {subject : Option String} {request : Request} :
    ((do let reply ← transport request; accept subject reply) s).state =
      (transport request s).state :=
  Action.state_bind_of_keepsState fun reply => keepsState_accept _ reply

/-- A command changes the tracker by one request, which tells whether it succeeds. -/
theorem result_carryOut_eq_ok_iff :
    (t.carryOut transport id command s).result = .ok () ↔
      IsAccepted (transport (t.changeRequest id command) s).result := by
  cases command <;> exact result_send_accept_eq_ok_iff

theorem state_carryOut : (t.carryOut transport id command s).state =
    (transport (t.changeRequest id command) s).state := by
  cases command <;> exact state_send_accept

/-! ## The calls -/

theorem runCommand_of_stopped (transport : Transport σ) (s : σ)
    (h : ¬∃ c d, t.Brings (transport (t.issueRequest id) s).result c ∧ command.run now c = .ok d) :
    (∃ e, (t.runCommand transport now command id s).result = .error e) ∧
      (t.runCommand transport now command id s).state =
        (transport (t.issueRequest id) s).state := by
  unfold Connection.runCommand
  cases hfetch : (t.fetch transport id s).result with
  | error e =>
    exact ⟨⟨e, Action.result_bind_of_error hfetch⟩,
      (Action.state_bind_of_error hfetch).trans state_fetch⟩
  | ok c =>
    rw [Action.result_bind_of_ok hfetch, Action.state_bind_of_ok hfetch, state_fetch]
    cases hrun : command.run now c with
    | error e => exact ⟨⟨e, rfl⟩, rfl⟩
    | ok d => exact absurd ⟨c, d, result_fetch_eq_ok_iff.mp hfetch, hrun⟩ h

/-- Once a test case allows the change, the command ends as the request for the change does. -/
theorem runCommand_of_brings (transport : Transport σ) (s : σ)
    (hc : t.Brings (transport (t.issueRequest id) s).result c) (hd : command.run now c = .ok d) :
    let second := transport (t.changeRequest id command) (transport (t.issueRequest id) s).state
    (t.runCommand transport now command id s).state = second.state ∧
      (IsAccepted second.result → (t.runCommand transport now command id s).result = .ok d) ∧
      (¬IsAccepted second.result →
        ∃ e, (t.runCommand transport now command id s).result = .error e) := by
  intro second
  have hfetch := result_fetch_eq_ok_iff.mpr hc
  unfold Connection.runCommand
  rw [Action.result_bind_of_ok hfetch, Action.state_bind_of_ok hfetch, state_fetch, hd,
    Action.ofExcept_ok_bind, Action.state_bind_pure, state_carryOut]
  refine ⟨rfl, fun haccepted => ?_, fun hrefused => ?_⟩
  · exact Action.result_bind_of_ok (result_carryOut_eq_ok_iff.mpr haccepted)
  · cases hcarry :
        (t.carryOut transport id command (transport (t.issueRequest id) s).state).result with
    | error e => exact ⟨e, Action.result_bind_of_error hcarry⟩
    | ok done => exact absurd (result_carryOut_eq_ok_iff.mp hcarry) hrefused

/-- How a call talks to the tracker, and how it may then end. -/
inductive CallTalk (t : Connection) (now : Instant) :
    Call → List Exchange → Except Fault Answer → Prop
  | got {id : String} {r : Request} (answer : Except Fault Reply) (result : Except Fault Answer)
    (hr : t.AsksForIssue id r) : CallTalk t now (.get id) [⟨r, answer⟩] result
  | listed {f : Filter} {r : Request} (answer : Except Fault Reply) (result : Except Fault Answer)
    (hr : t.AsksForIssues f r) : CallTalk t now (.list f) [⟨r, answer⟩] result
  | stopped {command : Command} {id : String} {r : Request} (answer : Except Fault Reply) (e : Fault)
    (hr : t.AsksForIssue id r) (h : ¬∃ c d, t.Brings answer c ∧ command.run now c = .ok d) :
    CallTalk t now (.command command id) [⟨r, answer⟩] (.error e)
  | refused {command : Command} {id : String} {r w : Request} (answer second : Except Fault Reply)
    (c d : TestCase) (e : Fault) (hr : t.AsksForIssue id r) (hc : t.Brings answer c)
    (hd : command.run now c = .ok d) (hw : t.MakesChange id command w) (h : ¬IsAccepted second) :
    CallTalk t now (.command command id) [⟨r, answer⟩, ⟨w, second⟩] (.error e)
  | changed {command : Command} {id : String} {r w : Request} (answer second : Except Fault Reply)
    (c d : TestCase) (hr : t.AsksForIssue id r) (hc : t.Brings answer c)
    (hd : command.run now c = .ok d) (hw : t.MakesChange id command w) (h : IsAccepted second) :
    CallTalk t now (.command command id) [⟨r, answer⟩, ⟨w, second⟩] (.ok (.one d))

theorem callTalk_command (transport : Transport σ) (t : Connection) (now : Instant)
    (command : Command) (id : String) (s : σ) :
    let done := (gatewayOver transport.noted t now).answer (.command command id) (s, [])
    CallTalk t now (.command command id) done.state.2 done.result := by
  intro done
  have hr := t.asksForIssue_issueRequest id
  have hw := t.makesChange_changeRequest id command
  have hstate : done.state = (t.runCommand transport.noted now command id (s, [])).state :=
    Action.state_bind_pure _
  by_cases h : ∃ c d, t.Brings (transport (t.issueRequest id) s).result c ∧
      command.run now c = .ok d
  · obtain ⟨c, d, hc, hd⟩ := h
    obtain ⟨hsecond, hok, herror⟩ := runCommand_of_brings transport.noted (s, []) hc hd
    rw [hstate, hsecond]
    by_cases haccepted : IsAccepted
        (transport (t.changeRequest id command) (transport (t.issueRequest id) s).state).result
    · have hresult : done.result = .ok (.one d) := Action.result_bind_of_ok (hok haccepted)
      rw [hresult]
      exact .changed _ _ c d hr hc hd hw haccepted
    · obtain ⟨e, he⟩ := herror haccepted
      have hresult : done.result = .error e := Action.result_bind_of_error he
      rw [hresult]
      exact .refused _ _ c d e hr hc hd hw haccepted
  · obtain ⟨⟨e, he⟩, hfirst⟩ := runCommand_of_stopped transport.noted (s, []) h
    have hresult : done.result = .error e := Action.result_bind_of_error he
    rw [hstate, hfirst, hresult]
    exact .stopped _ e hr h

theorem callTalk_answer (transport : Transport σ) (t : Connection) (now : Instant) (call : Call)
    (s : σ) :
    let done := (gatewayOver transport.noted t now).answer call (s, [])
    CallTalk t now call done.state.2 done.result := by
  cases call with
  | command command id => exact callTalk_command transport t now command id s
  | get id =>
    intro done
    have hstate : done.state = (transport.noted (t.issueRequest id) (s, [])).state :=
      (Action.state_bind_pure _).trans state_fetch
    rw [hstate]
    exact .got _ _ (t.asksForIssue_issueRequest id)
  | list f =>
    intro done
    have hstate : done.state = (transport.noted (t.searchRequest f) (s, [])).state :=
      (Action.state_bind_pure _).trans state_listCases
    rw [hstate]
    exact .listed _ _ (t.asksForIssues_searchRequest f)

/-- However requests are answered, a query sends one that changes nothing. A command asks for its
issue, and sends its change exactly when the answer brings a test case that allows it; it succeeds,
with the changed test case, exactly when the change is answered with success. -/
theorem call_talks (transport : Transport σ) (t : Connection) (now : Instant) (call : Call) (s : σ) :
    let plain := (gatewayOver transport t now).answer call s
    let done := (gatewayOver transport.noted t now).answer call (s, [])
    done.result = plain.result ∧ done.state.1 = plain.state ∧
      CallTalk t now call done.state.2 done.result := by
  intro plain done
  obtain ⟨hresult, hstate⟩ := agree_answer (agree_noted transport) t now call (s, []) s rfl
  exact ⟨hresult, hstate, callTalk_answer transport t now call s⟩

/-- A draft is asked for and then activated, an active test case is only asked for. -/
example :
    let reply (status : String) : Reply := ⟨200, Text.bytesOf (Value.object [("fields", .object [
      ("status", .object [("name", .text status)])]), ("key", .text "QA-1")]).compact⟩
    let sent (status : String) := ((gateway plainTracker (.startOfYear 2024)).command .activate
      "QA-1" ⟨true, [reply status, ⟨204, []⟩], []⟩).state.received.map (·.method)
    sent "To Do" = [.get, .post] ∧ sent "Active" = [.get] := by
  decide +kernel

end CaseRouting.Tracker
