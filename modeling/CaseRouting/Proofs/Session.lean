import CaseRouting.Proofs.Assembly.Isolation
import CaseRouting.Proofs.Exchange
import CaseRouting.Proofs.Json.Layout
import CaseRouting.Proofs.Settings.Template
import CaseRouting.Session

/-!
# What a session tells

A session goes through its stages in a fixed order and ends with the first that fails, or with the
reply to its request. Its exit code and its output tell which of these it was, and a session that
fails has left the sheet and the rows of the database as they were. All this holds whatever becomes
of requests to the tracker.
-/

namespace CaseRouting

open CommandLine (Arguments Task)
open Files (Tree)
open Tracker (Server Transport)

def UseCaseReply.toJson : UseCaseReply → Json.Value
  | .receipt r => r.toJson
  | .view c => c.toJson
  | .listing l => l.toJson

namespace UseCaseReply

def IsHeld : UseCaseReply → Prop
  | .receipt r => r.IsHeld
  | .view c => c.IsHeld
  | .listing l => l.IsHeld

def IsReadFrom (text : String) : UseCaseReply → Prop
  | .receipt r => Json.decodeText Receipt.decoder text = .ok r
  | .view c => Json.decodeText TestCase.viewDecoder text = .ok c
  | .listing l => Json.decodeText Listing.decoder text = .ok l

/-- The text shows the data of a reply line by line, so that it can be read back. -/
structure IsShownBy (reply : UseCaseReply) (text : String) : Prop where
  isIndented : reply.toJson.IsIndented 0 text.toList
  isReadFrom : reply.IsHeld → reply.IsReadFrom text

theorem isShownBy_indented (reply : UseCaseReply) : reply.IsShownBy reply.toJson.indented where
  isIndented := Json.Value.isIndented_indented _
  isReadFrom h := by
    cases reply with
    | receipt r => exact (r.readsAs_toJson h).decodeText_indented
    | view c => exact (c.readsAs_toJson h "TestCaseView").decodeText_indented
    | listing l => exact (l.readsAs_toJson h).decodeText_indented

end UseCaseReply

def Category.exitCode : Category → Nat
  | .configuration => 3
  | .source => 1
  | .business => 4
  | .integration => 2

namespace Session

variable {transport : Transport Server} {env : Environment} {a : Arguments} {args : List String}
  {s : Settings} {site after after' : Site} {f : Fault}
  {outcome outcome' : Except Fault UseCaseReply}

/-- The request that a command line makes, if its names mean something. -/
def request : Task → Except Fault UseCaseRequest
  | .activate t => (Source.ofName t.source).map fun source => .activate ⟨t.id, source⟩
  | .deactivate t => (Source.ofName t.source).map fun source => .deactivate ⟨t.id, source⟩
  | .update t changes => (Source.ofName t.source).map fun source => .update ⟨t.id, changes, source⟩
  | .get t => (Source.ofName t.source).map fun source => .get ⟨t.id, source⟩
  | .list l => (listRequest l).map .list

/-- How a run ends and what it leaves: with the fault of its first stage that fails, or with the
reply to its request. -/
inductive Course (transport : Transport Server) (env : Environment) (a : Arguments) (site : Site) :
    Except Fault UseCaseReply → Site → Prop
  | unloaded (f : Fault) (hload : Settings.load env site.disk a.config = .error f) :
    Course transport env a site (.error f) site
  | invalid (s : Settings) (f : Fault) (hload : Settings.load env site.disk a.config = .ok s)
    (hvalidate : s.validate = .error f) : Course transport env a site (.error f) site
  | unassembled (s : Settings) (f : Fault) (hload : Settings.load env site.disk a.config = .ok s)
    (hvalidate : s.validate = .ok ())
    (hassemble : (assembleOver transport s site).result = .error f) :
    Course transport env a site (.error f) (assembleOver transport s site).state
  | unread (s : Settings) (routers : Routers Site) (f : Fault)
    (hload : Settings.load env site.disk a.config = .ok s) (hvalidate : s.validate = .ok ())
    (hassemble : (assembleOver transport s site).result = .ok routers)
    (hrequest : request a.task = .error f) :
    Course transport env a site (.error f) (assembleOver transport s site).state
  | failed (s : Settings) (routers : Routers Site) (r : UseCaseRequest) (f : Fault)
    (hload : Settings.load env site.disk a.config = .ok s) (hvalidate : s.validate = .ok ())
    (hassemble : (assembleOver transport s site).result = .ok routers)
    (hrequest : request a.task = .ok r)
    (hserve : (routers.serve r (assembleOver transport s site).state).result = .error f) :
    Course transport env a site (.error f)
      (routers.serve r (assembleOver transport s site).state).state
  | answered (s : Settings) (routers : Routers Site) (r : UseCaseRequest) (reply : UseCaseReply)
    (hload : Settings.load env site.disk a.config = .ok s) (hvalidate : s.validate = .ok ())
    (hassemble : (assembleOver transport s site).result = .ok routers)
    (hrequest : request a.task = .ok r)
    (hserve : (routers.serve r (assembleOver transport s site).state).result = .ok reply) :
    Course transport env a site (.ok reply)
      (routers.serve r (assembleOver transport s site).state).state

theorem Course.unique (h : Course transport env a site outcome after)
    (h' : Course transport env a site outcome' after') : outcome' = outcome ∧ after' = after := by
  -- Two different ends disagree on a stage that both have gone through.
  cases h <;> cases h' <;> simp_all

theorem ending_read {α β : Type} {routers : Routers Site} {read : Except Fault α}
    {act : α → Action Site β} {json : β → Json.Value} (wrap : α → UseCaseRequest)
    (reply : β → UseCaseReply)
    (hserve : ∀ a, routers.serve (wrap a) = act a >>= fun v => pure (reply v))
    (hjson : ∀ v, json v = (reply v).toJson) (site : Site) :
    ((Action.ofExcept read >>= fun a => act a >>= fun v => pure (json v)) site).ending =
      match read.map wrap with
      | .error f => (.error f, site)
      | .ok r => withValue UseCaseReply.toJson (routers.serve r site).ending := by
  obtain rfl : json = fun v => (reply v).toJson := funext hjson
  cases read with
  | error f => rfl
  | ok a =>
    dsimp only [Except.map]
    rw [Action.ofExcept_ok_bind, Action.ending_bind_pure, hserve, Action.ending_bind_pure,
      withValue_withValue]

theorem ending_answer (routers : Routers Site) (task : Task) (site : Site) :
    (answer routers task site).ending =
      match request task with
      | .error f => (.error f, site)
      | .ok r => withValue UseCaseReply.toJson (routers.serve r site).ending := by
  cases task with
  | activate t =>
    exact ending_read (fun source => .activate ⟨t.id, source⟩) .receipt (fun _ => rfl)
      (fun _ => rfl) site
  | deactivate t =>
    exact ending_read (fun source => .deactivate ⟨t.id, source⟩) .receipt (fun _ => rfl)
      (fun _ => rfl) site
  | update t changes =>
    exact ending_read (fun source => .update ⟨t.id, changes, source⟩) .view (fun _ => rfl)
      (fun _ => rfl) site
  | get t =>
    exact ending_read (fun source => .get ⟨t.id, source⟩) .view (fun _ => rfl) (fun _ => rfl) site
  | list l => exact ending_read .list .listing (fun _ => rfl) (fun _ => rfl) site

/-- Logging apart, the work of a run is one stage after the other. -/
theorem ending_work (transport : Transport Server) (a : Arguments) (s : Settings) (site : Site) :
    (work transport a s site).ending =
      match s.validate with
      | .error f => (.error f, site)
      | .ok _ =>
        match (assembleOver transport s site).result with
        | .error f => (.error f, (assembleOver transport s site).state)
        | .ok routers => (answer routers a.task (assembleOver transport s site).state).ending := by
  -- Whether the arguments are logged makes no difference to how the work ends.
  have hstages : (work transport a s site).ending =
      ((Action.ofExcept s.validate >>= fun _ => assembleOver transport s >>= fun routers =>
        answer routers a.task) site).ending := by
    unfold work
    rw [Action.ending_log_bind]
    split
    · rw [Action.ending_log_bind]
    · rfl
  rw [hstages]
  cases s.validate with
  | error f => rfl
  | ok _ =>
    rw [Action.ofExcept_ok_bind]
    rcases Action.bind_cases (assembleOver transport s) (fun routers => answer routers a.task) site
      with ⟨f, hassemble, hresult, hstate⟩ | ⟨routers, hassemble, hresult, hstate⟩
    · rw [Outcome.ending, hresult, hstate, hassemble]
    · rw [Outcome.ending, hresult, hstate, hassemble]
      rfl

/-- Once the settings are loaded, the work of a run takes its course. -/
theorem exists_course_of_work (hload : Settings.load env site.disk a.config = .ok s) :
    ∃ outcome after, Course transport env a site outcome after ∧
      (work transport a s site).ending = withValue UseCaseReply.toJson (outcome, after) := by
  have hwork := ending_work transport a s site
  cases hvalidate : s.validate with
  | error f =>
    rw [hvalidate] at hwork
    exact ⟨_, _, .invalid s f hload hvalidate, hwork⟩
  | ok _ =>
    cases hassemble : (assembleOver transport s site).result with
    | error f =>
      rw [hvalidate, hassemble] at hwork
      exact ⟨_, _, .unassembled s f hload hvalidate hassemble, hwork⟩
    | ok routers =>
      rw [hvalidate, hassemble] at hwork
      have hanswer :=
        hwork.trans (ending_answer routers a.task (assembleOver transport s site).state)
      cases hrequest : request a.task with
      | error f =>
        rw [hrequest] at hanswer
        exact ⟨_, _, .unread s routers f hload hvalidate hassemble hrequest, hanswer⟩
      | ok r =>
        rw [hrequest] at hanswer
        cases hserve : (routers.serve r (assembleOver transport s site).state).result with
        | error f =>
          refine ⟨_, _, .failed s routers r f hload hvalidate hassemble hrequest hserve, ?_⟩
          exact hanswer.trans (congrArg (withValue _) (Prod.ext hserve rfl))
        | ok reply =>
          refine ⟨_, _, .answered s routers r reply hload hvalidate hassemble hrequest hserve, ?_⟩
          exact hanswer.trans (congrArg (withValue _) (Prod.ext hserve rfl))

/-- Neither an assembly nor a request that fails changes the sheet or the database. -/
theorem Course.keeps_of_error (h : Course transport env a site (.error f) after)
    (hload : Settings.load env site.disk a.config = .ok s)
    (hapart : (s.places site.disk).Nodup) :
    s.KeepsData site after .sheet ∧ s.KeepsData site after .database := by
  have hassembly := respects_assembleOver transport s site hapart
  have hsame {s' : Settings} (h' : Settings.load env site.disk a.config = .ok s') : s' = s :=
    Except.ok.inj (h'.symm.trans hload)
  cases h with
  | unloaded _ hunloaded => exact absurd (hunloaded.symm.trans hload) (by simp)
  | invalid => exact ⟨.refl s _ _, .refl s _ _⟩
  | unassembled s' _ h' =>
    obtain rfl := hsame h'
    exact ⟨hassembly.data .sheet, hassembly.data .database⟩
  | unread s' _ _ h' =>
    obtain rfl := hsame h'
    exact ⟨hassembly.data .sheet, hassembly.data .database⟩
  | failed s' routers r _ h' _ hassemble _ hserve =>
    obtain rfl := hsame h'
    have hlater := hapart
    rw [← Settings.places_congr hassembly.directory] at hlater
    have hisolated := isIsolated_serve (assembled_of_assembleOver hassemble)
      hassembly.directory hlater r
    obtain ⟨hsheet, hdatabase⟩ := hisolated.unfinished (.inr ⟨f, hserve⟩)
    exact ⟨(hassembly.data .sheet).trans hsheet, (hassembly.data .database).trans hdatabase⟩

theorem exitCode_eq (f : Fault) : exitCode f = f.category.exitCode := by
  unfold exitCode Fault.severity
  cases f.category <;> rfl

theorem exitCode_ne_zero (f : Fault) : exitCode f ≠ 0 := by
  rw [exitCode_eq]
  cases f.category <;> decide

/-- The lines for events of a run, as far as they are written and in the form that is asked for. -/
def logOf (env : Environment) (a : Arguments) (s : Settings) (site : Site)
    (events : List Log.Event) : String :=
  logText (Log.Filter.choose ((env.find? (·.1 == "RUST_LOG")).map (·.2)) s.logLevel a.verbose)
    (if a.jsonLogs || s.jsonLogs then .json else .plain) site.clock events

/-- What the report of a run tells of its outcome: by the exit code which fault it was, if any, and
by the output the reply, if any, and otherwise what was logged on the way and nothing else. -/
structure Tells (transport : Transport Server) (env : Environment) (a : Arguments) (site : Site)
    (outcome : Except Fault UseCaseReply) (report : Report) : Prop where
  exitCode_eq_zero_iff : report.exitCode = 0 ↔ ∃ reply, outcome = .ok reply
  exitCode_of_error : ∀ f, outcome = .error f → report.exitCode = f.category.exitCode
  output_of_ok : ∀ reply, outcome = .ok reply →
    ∃ s text, Settings.load env site.disk a.config = .ok s ∧ reply.IsShownBy text ∧
      report.output = logOf env a s site (work transport a s site).events ++ text ++ "\n"
  output_of_error : ∀ s f, Settings.load env site.disk a.config = .ok s → outcome = .error f →
    report.output = logOf env a s site ((work transport a s site).events ++ lastWords f)
  output_of_unloaded : ∀ f, Settings.load env site.disk a.config = .error f → report.output = ""

theorem tells_runWith (hload : Settings.load env site.disk a.config = .ok s)
    (hending : (work transport a s site).ending = withValue UseCaseReply.toJson (outcome, after)) :
    (runWith transport env a s site).site = after ∧
      Tells transport env a site outcome (runWith transport env a s site) := by
  obtain ⟨hresult, hstate⟩ := Prod.mk.inj hending
  have hloaded (f : Fault) : Settings.load env site.disk a.config ≠ .error f := by simp [hload]
  unfold runWith
  cases outcome with
  | error f =>
    simp only [hresult, Except.map]
    refine ⟨hstate, ⟨fun hzero => absurd hzero (exitCode_ne_zero f), by simp⟩, fun f' heq => ?_,
      by simp, fun s' f' hload' heq => ?_, fun f' h => absurd h (hloaded f')⟩
    · rw [← Except.error.inj heq, exitCode_eq]
    · obtain rfl := Except.error.inj heq
      obtain rfl := Except.ok.inj (hload.symm.trans hload')
      rfl
  | ok reply =>
    simp only [hresult, Except.map]
    refine ⟨hstate, ⟨fun _ => ⟨reply, rfl⟩, fun _ => rfl⟩, by simp, fun reply' heq => ?_, by simp,
      fun f' h => absurd h (hloaded f')⟩
    obtain rfl := Except.ok.inj heq
    exact ⟨s, _, hload, reply.isShownBy_indented, rfl⟩

theorem exists_course_of_runArguments (transport : Transport Server) (env : Environment)
    (a : Arguments) (site : Site) :
    ∃ outcome, Course transport env a site outcome (runArguments transport env a site).site ∧
      Tells transport env a site outcome (runArguments transport env a site) := by
  unfold runArguments
  cases hload : Settings.load env site.disk a.config with
  | error f =>
    refine ⟨_, .unloaded f hload, ⟨fun hzero => absurd hzero (exitCode_ne_zero f), by simp⟩,
      fun f' heq => ?_, by simp, by simp [hload], fun _ _ => rfl⟩
    exact (exitCode_eq f).trans (congrArg _ (congrArg Fault.category (Except.error.inj heq)))
  | ok s =>
    obtain ⟨outcome, after, hcourse, hending⟩ := exists_course_of_work hload
    obtain ⟨hsite, htells⟩ := tells_runWith hload hending
    rw [← hsite] at hcourse
    exact ⟨outcome, hcourse, htells⟩

def sheetOnlyText : String :=
  "[router]\nrequire_all_sources = false\n[sources.csv]\npath = \"cases.csv\"\n"

def sheetOnlySettings : Settings where
  router := ⟨false⟩
  logging := none
  sources := ⟨some ⟨"cases.csv"⟩, none, none⟩

def sheetOnlyMembers : Toml.Members := [
  ("router", .table false false [("require_all_sources", .value (.bool false))]),
  ("sources", .table true false
    [("csv", .table false false [("path", .value (.ofText "cases.csv"))])])]

theorem parse_sheetOnlyText : Settings.parse [] sheetOnlyText = .ok sheetOnlySettings := by
  have hrouter : (Toml.Statement.header false [] "router").Begins "[router]\n".toList ['\n'] :=
    ⟨"router]\n".toList, by decide, "]\n".toList, by decide +kernel, by decide⟩
  have hpartly : (Toml.Statement.setting [] "require_all_sources" (.bool false)).Begins
      "require_all_sources = false\n".toList ['\n'] :=
    Toml.begins_of_word " false\n".toList "false".toList (by decide +kernel) (by decide +kernel) rfl
  have hsheet : (Toml.Statement.header false ["sources"] "csv").Begins "[sources.csv]\n".toList
      ['\n'] :=
    ⟨"sources.csv]\n".toList, by decide, "]\n".toList, by decide +kernel, by decide⟩
  have hlines : Settings.withoutMark sheetOnlyText.toList =
      "[router]\n".toList ++ ("require_all_sources = false\n".toList ++
        ("[sources.csv]\n".toList ++ (Toml.textLine "path" "cases.csv" ++ []))) := by
    decide +kernel
  rw [Settings.parse, Settings.substitute_eq_self fun _ _ _ => rfl]
  refine Settings.ofText_ofList_eq_ok_iff.mpr
    ⟨⟨sheetOnlyMembers, ["sources", "csv"]⟩, ?_, ?_⟩
  · simp (disch := decide) only [hlines, Toml.readLines_line hrouter, Toml.readLines_line hpartly,
      Toml.readLines_line hsheet, Toml.readLines_textLine]
    cbv
  · cbv

/-- A disk on which the draft of the sheet cannot be written, for a directory stands there. -/
def blockedSite : Site where
  disk := {
    nodes := [(["work"], .directory),
      (["work", "tc-router.toml"], .file (Text.bytesOf sheetOnlyText)),
      (["work", "cases.csv"], .file (Text.bytesOf "id,title,status\nt1,Login,draft\n")),
      (["work", "cases.tmp"], .directory)]
    workingDirectory := ["work"] }
  unnamed := ⟨[], false⟩
  server := ⟨false, [], []⟩
  clock := .startOfYear 2024

/-- An activation that comes as far as its write. -/
def activation : Arguments := ⟨"tc-router.toml", false, false, .activate ⟨"csv", "t1"⟩⟩

/-- The test case can be read, but not activated. -/
example :
    (runWith Tracker.send [] activation sheetOnlySettings blockedSite).exitCode = 2 ∧
      (runWith Tracker.send [("RUST_LOG", "off")] { activation with task := .get ⟨"csv", "t1"⟩ }
        sheetOnlySettings blockedSite).output =
        "\x7b\n  \"id\": \"t1\",\n  \"title\": \"Login\",\n  \"status\": \"draft\",\n" ++
          "  \"priority\": null,\n  \"labels\": [],\n  \"updated_at\": null\n\x7d\n" := by
  decide +kernel

end Session

end CaseRouting
