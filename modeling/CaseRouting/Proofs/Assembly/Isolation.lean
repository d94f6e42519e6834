import CaseRouting.Proofs.Assembly.Routers

/-!
# Requests are isolated

Along every run of requests to an assembled program, each is served by the gateway of its own source
alone and changes the data of no other. What it does not do, because it asks for nothing to change,
is refused or fails, leaves no trace in the files and rows.
-/

namespace CaseRouting

open Files (Tree)

variable {s : Settings} {transport : Tracker.Transport Tracker.Server} {site : Site} {start : Tree}
  {routers : Routers Site} {source : Source} {g : Gateway Site}

/-- How a request is served and what it changes, by settings that say which gateways there are. A
request that is refused, for whatever reason, is one that fails. -/
structure IsIsolated (s : Settings) (transport : Tracker.Transport Tracker.Server) (start : Tree)
    (r : UseCaseRequest) (before : Site) (done : Outcome Site UseCaseReply) : Prop
    extends StaysWithin s r.source r.isQuery before done where
  refused : r.isEmptyUpdate = true → done.result = .error emptyUpdate
  unbound : r.isEmptyUpdate = false → r.source ∉ s.configured →
    done.result = .error (.unbound r.source)
  passedOn : r.isEmptyUpdate = false → r.source ∈ s.configured →
    ∃ g, s.gateway? transport start r.source = some g ∧
      done.result = (g.answer r.call before).result.map r.reply ∧
      done.state = (g.answer r.call before).state

theorem staysWithin_of_gateway? (hg : s.gateway? transport start source = some g)
    (hstart : site.disk.workingDirectory = start.workingDirectory)
    (hapart : (s.places site.disk).Nodup) (call : Call) :
    StaysWithin s source call.isQuery site (g.answer call site) := by
  cases source with
  | sheet =>
    obtain ⟨sheet, hsheet, rfl⟩ := Option.map_eq_some_iff.mp hg
    exact sheetGateway_staysWithin hapart hsheet call
  | tracker =>
    obtain ⟨tracker, _, hconnected⟩ := Option.bind_eq_some_iff.mp hg
    obtain ⟨t, _, rfl⟩ := Option.map_eq_some_iff.mp hconnected
    exact trackerGateway_staysWithin s transport t call site
  | database =>
    obtain ⟨database, hdatabase, rfl⟩ := Option.map_eq_some_iff.mp hg
    exact tableGateway_staysWithin hstart hapart hdatabase call

theorem Assembled.get?_slots (h : Assembled s transport start routers) (r : UseCaseRequest)
    (source : Source) :
    (r.slots routers).get? source = s.gateway? transport start source := by
  unfold UseCaseRequest.slots
  split
  · exact h.queries source
  · exact h.commands source

theorem StaysWithin.refl {α : Type} {isQuery : Bool} {done : Outcome Site α}
    (hstate : done.state = site) : StaysWithin s source isQuery site done := by
  subst hstate
  exact ⟨rfl, fun other _ => .refl s _ other, fun _ => ⟨.refl s _ _, .refl s _ _⟩⟩

/-- Something else made of the value changes nothing more. -/
theorem StaysWithin.map {α β : Type} {isQuery : Bool} {done : Outcome Site α}
    {done' : Outcome Site β} {f : α → β} (h : StaysWithin s source isQuery site done)
    (hresult : done'.result = done.result.map f) (hstate : done'.state = done.state) :
    StaysWithin s source isQuery site done' := by
  obtain ⟨result, state, events⟩ := done
  obtain ⟨result', state', events'⟩ := done'
  obtain rfl : state' = state := hstate
  refine ⟨h.directory, h.others, fun hkind => h.unfinished (hkind.imp_right ?_)⟩
  rintro ⟨e, he⟩
  cases result with
  | error e' => exact ⟨e', rfl⟩
  | ok a => exact absurd (hresult.symm.trans he) (by simp [Except.map])

theorem isIsolated_serve (h : Assembled s transport start routers)
    (hstart : site.disk.workingDirectory = start.workingDirectory)
    (hapart : (s.places site.disk).Nodup) (r : UseCaseRequest) :
    IsIsolated s transport start r site (routers.serve r site) := by
  have hslot := h.get?_slots r r.source
  have hconfigured := h.isSome_iff r.source
  by_cases hempty : r.isEmptyUpdate = true
  · obtain ⟨hresult, hstate⟩ := Prod.mk.inj
      (routers.ending_serve_of_empty site hempty)
    exact ⟨.refl hstate, fun _ => hresult, fun hne => absurd hempty (by simp [hne]),
      fun hne => absurd hempty (by simp [hne])⟩
  · have hsome : r.isEmptyUpdate = false := by simpa using hempty
    cases hgateway : s.gateway? transport start r.source with
    | none =>
      rw [hgateway] at hslot hconfigured
      obtain ⟨hresult, hstate⟩ := Prod.mk.inj
        (routers.ending_serve_of_unbound site hsome hslot)
      exact ⟨.refl hstate, fun h => absurd h hempty, fun _ _ => hresult,
        fun _ hmem => absurd (hconfigured.mpr hmem) (by simp)⟩
    | some g =>
      rw [hgateway] at hslot hconfigured
      obtain ⟨hresult, hstate⟩ := Prod.mk.inj
        (routers.ending_serve_of_bound site hsome hslot)
      have hstays := staysWithin_of_gateway? hgateway hstart hapart r.call
      exact ⟨hstays.map hresult hstate, fun h => absurd h hempty,
        fun _ hmem => absurd (hconfigured.mp rfl) hmem,
        fun _ _ => ⟨g, hgateway, hresult, hstate⟩⟩

structure Turn where
  now : Instant
  request : UseCaseRequest
  deriving DecidableEq

def Site.atTime (now : Instant) (site : Site) : Site := { site with clock := now }

def Routers.take (routers : Routers Site) (turn : Turn) : Action Site UseCaseReply :=
  fun site => routers.serve turn.request (site.atTime turn.now)

/-- All three sources, with the sheet and the database in one directory. -/
def mixedSettings : Settings where
  router := ⟨true⟩
  logging := none
  sources := {
    sheet := some ⟨"data/cases.csv"⟩
    tracker := some ⟨"http://tracker.test", "QA", none, none, none, none, "21", "31", none, none⟩
    database := some ⟨"data/cases.db"⟩ }

/-- A sheet with one test case, no database yet, and a tracker that knows no issue. -/
def mixedSite : Site where
  disk := {
    nodes := [(["work"], .directory), (["work", "data"], .directory),
      (["work", "data", "cases.csv"], .file (Text.bytesOf "id,title,status\nt1,Login,draft\n"))]
    workingDirectory := ["work"] }
  unnamed := ⟨[], false⟩
  server := ⟨true, [⟨404, []⟩], []⟩
  clock := .startOfYear 2024

/-- Requests to all sources, of which only the first changes anything. -/
def mixedTurns : List Turn :=
  let time : Instant := .startOfYear 2024
  [⟨time, .activate ⟨"t1", .sheet⟩⟩, ⟨time, .get ⟨"t1", .tracker⟩⟩,
    ⟨time, .update ⟨"t1", ⟨none, none, none⟩, .sheet⟩⟩, ⟨time, .deactivate ⟨"t1", .database⟩⟩,
    ⟨time, .list ⟨.all, .sheet⟩⟩]

/-- What these requests are answered. -/
example :
    (match (assembleOver Tracker.send mixedSettings mixedSite).result with
      | .ok routers =>
        (transitions routers.take (assembleOver Tracker.send mixedSettings mixedSite).state
          mixedTurns).map fun t => t.done.result
      | .error e => [.error e]) =
      [.ok (.receipt ⟨"t1", .active, some (.startOfYear 2024)⟩), .error (.notFound "t1"),
        .error emptyUpdate, .error (.notFound "t1"),
        .ok (.listing ⟨.sheet,
          [⟨"t1", "Login", .active, none, [], some (.startOfYear 2024)⟩], 1⟩)] := by
  decide +kernel

end CaseRouting
