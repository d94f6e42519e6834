import CaseRouting.Proofs.Address.Query
import CaseRouting.Proofs.Json.Values
import CaseRouting.Tracker.Gateway

/-!
# What requests say

A request as its receiver has it: its method, the resource that it is addressed to, the pairs of its
query and the document in its body, read from their text. A test case and a list of them are asked
for. A change is sent, as one of the configured transitions or as the fields that it gives.
-/

namespace CaseRouting.Tracker

open Address (WebAddress)
open Json (Value)

variable {t : Connection} {id : String} {changes : Changes} {pairs : List (String × String)}

/-! ## Requests by their parts -/

structure Request.Asks (r : Request) (address : WebAddress) (pairs : List (String × String)) :
    Prop where
  method_eq : r.method = .get
  exists_query : ∃ query, r.url.toList = address.chars ++ '?' :: query ∧
    Address.readQuery? query = some pairs
  body_eq : r.body = none

structure Request.Sends (r : Request) (method : Method) (address : WebAddress) (d : Doc) :
    Prop where
  method_eq : r.method = method
  url_eq : r.url.toList = address.chars
  exists_body : ∃ body, r.body = some body ∧ Json.read body.compact = (d, [])

theorem url_request_query (t : Connection) (method : Method) (address : WebAddress)
    (hne : pairs ≠ []) (body : Option Value) :
    (t.request method address (Address.query pairs) body).url =
      .ofList (address.chars ++ '?' :: Address.queryChars pairs) := by
  have hquery : (Address.query pairs).isEmpty = false := by
    rw [String.isEmpty_eq_false_iff, ← String.toList_inj.ne, Address.query, String.toList_ofList]
    obtain ⟨p, rest, rfl⟩ := List.exists_cons_of_ne_nil hne
    cases rest <;> simp [Address.queryChars, Address.queryPair]
  have hmark (cs : List Char) : String.ofList ('?' :: cs) = "?" ++ .ofList cs := by
    rw [← List.singleton_append, String.ofList_append]
  simp only [Connection.request, hquery, Bool.false_eq_true, if_false]
  rw [String.ofList_append, hmark]
  rfl

theorem asks_request (t : Connection) (address : WebAddress) (hne : pairs ≠ []) :
    (t.request .get address (Address.query pairs) none).Asks address pairs where
  method_eq := rfl
  exists_query := by
    refine ⟨_, ?_, Address.readQuery?_queryChars hne⟩
    rw [url_request_query t _ _ hne, String.toList_ofList]
  body_eq := rfl

theorem sends_request (t : Connection) (method : Method) (address : WebAddress) {body : Value}
    (h : body.IsPlain) : (t.request method address "" (some body)).Sends method address body.doc where
  method_eq := rfl
  url_eq := by
    have hurl : (t.request method address "" (some body)).url = .ofList address.chars :=
      String.append_empty
    rw [hurl, String.toList_ofList]
  exists_body := ⟨body, rfl, Json.read_compact h⟩

/-! ## Requests that change nothing -/

namespace Connection

def AsksForIssue (t : Connection) (id : String) (r : Request) : Prop :=
  r.Asks (t.base.extend ["rest", "api", "2", "issue", id])
    [("fields", "summary,status,priority,labels,updated")]

def AsksForIssues (t : Connection) (f : Filter) (r : Request) : Prop :=
  r.Asks (t.base.extend ["rest", "api", "2", "search"])
    [("jql", searchText t.settings f), ("fields", "summary,status,priority,labels,updated"),
      ("maxResults", toString (pageSize t.settings f))]

theorem asksForIssue_issueRequest (t : Connection) (id : String) :
    t.AsksForIssue id (t.issueRequest id) :=
  asks_request t _ (List.cons_ne_nil _ _)

theorem asksForIssues_searchRequest (t : Connection) (f : Filter) :
    t.AsksForIssues f (t.searchRequest f) :=
  asks_request t _ (List.cons_ne_nil _ _)

end Connection

/-! ## Requests for changes -/

/-- The members give the fields that an update has, each with its value, and no others. -/
structure GivesFields (given : List (String × Doc)) (changes : Changes) : Prop where
  nodup : (given.map (·.1)).Nodup
  summary : ∀ d, ("summary", d) ∈ given ↔ ∃ title, changes.title = some title ∧ d = .ofText title
  priority : ∀ d, ("priority", d) ∈ given ↔
    ∃ name, changes.priority = some name ∧ d = .ofMembers [("name", .ofText name)]
  labels : ∀ d, ("labels", d) ∈ given ↔
    ∃ ls, changes.labels = some ls ∧ d = .array (ls.map .ofText) true
  names : ∀ m ∈ given, m.1 ∈ ["summary", "priority", "labels"]

namespace Connection

def MovesIssue (t : Connection) (id transitionId : String) (r : Request) : Prop :=
  r.Sends .post (t.base.extend ["rest", "api", "2", "issue", id, "transitions"])
    (.ofMembers [("transition", .ofMembers [("id", .ofText transitionId)])])

def SetsFields (t : Connection) (id : String) (changes : Changes) (r : Request) : Prop :=
  ∃ given, GivesFields given changes ∧
    r.Sends .put (t.base.extend ["rest", "api", "2", "issue", id])
      (.ofMembers [("fields", .ofMembers given)])

def MakesChange (t : Connection) (id : String) : Command → Request → Prop
  | .activate => t.MovesIssue id t.settings.activateTransition
  | .deactivate => t.MovesIssue id t.settings.deactivateTransition
  | .update changes => t.SetsFields id changes

def changeRequest (t : Connection) (id : String) : Command → Request
  | .activate => t.transitionRequest id t.settings.activateTransition
  | .deactivate => t.transitionRequest id t.settings.deactivateTransition
  | .update changes => t.fieldsRequest id changes

end Connection

/-- The fields that an update sets, as they are read from its request. -/
def givenFields (changes : Changes) : List (String × Doc) :=
  (changes.labels.map fun ls => ("labels", Doc.array (ls.map .ofText) true)).toList ++
    ((changes.priority.map fun p => ("priority", Doc.ofMembers [("name", .ofText p)])).toList ++
      (changes.title.map fun s => ("summary", Doc.ofText s)).toList)

theorem map_updateFields (changes : Changes) :
    ((updateFields changes).map fun m => (m.1, m.2.doc)) = givenFields changes := by
  obtain ⟨title, priority, labels⟩ := changes
  simp only [givenFields, ← Json.doc_texts]
  cases title <;> cases priority <;> cases labels <;> rfl

theorem givesFields_givenFields (changes : Changes) : GivesFields (givenFields changes) changes := by
  obtain ⟨title, priority, labels⟩ := changes
  constructor <;> cases title <;> cases priority <;> cases labels <;>
    simp [givenFields, eq_comm]

theorem isPlain_updateFields (changes : Changes) : ∀ m ∈ updateFields changes, m.2.IsPlain := by
  obtain ⟨title, priority, labels⟩ := changes
  simp only [updateFields, List.mem_append, Option.mem_toList, Option.map_eq_some_iff]
  rintro m ((⟨ls, _, rfl⟩ | ⟨p, _, rfl⟩) | ⟨s, _, rfl⟩)
  · exact Json.isPlain_texts ls
  · exact ⟨trivial, trivial⟩
  · trivial

namespace Connection

theorem movesIssue_transitionRequest (t : Connection) (id transitionId : String) :
    t.MovesIssue id transitionId (t.transitionRequest id transitionId) :=
  sends_request t _ _ (by simp [Value.IsPlain, Value.HavePlain])

theorem sends_fieldsRequest (t : Connection) (id : String) (changes : Changes) :
    (t.fieldsRequest id changes).Sends .put (t.base.extend ["rest", "api", "2", "issue", id])
      (.ofMembers [("fields", .ofMembers (givenFields changes))]) := by
  have hplain : (Value.object [("fields", .object (updateFields changes))]).IsPlain := by
    rw [Value.IsPlain, Value.havePlain_iff, List.forall_mem_singleton, Value.IsPlain,
      Value.havePlain_iff]
    exact isPlain_updateFields changes
  have hsends := sends_request t .put (t.issueAddress id) hplain
  rw [Value.doc_object, List.map_singleton, Value.doc_object, map_updateFields] at hsends
  exact hsends

theorem makesChange_changeRequest (t : Connection) (id : String) (command : Command) :
    t.MakesChange id command (t.changeRequest id command) := by
  cases command with
  | activate => exact movesIssue_transitionRequest t id _
  | deactivate => exact movesIssue_transitionRequest t id _
  | update changes => exact ⟨_, givesFields_givenFields changes, sends_fieldsRequest t id changes⟩

end Connection

def plainSettings (baseUrl : String) : Settings.TrackerSettings :=
  ⟨baseUrl, "QA", none, some "secret", none, none, "21", "31", none, none⟩

def plainTracker : Connection where
  base := ⟨true, [], "jira.example.com".toList, none, "/".toList, false⟩
  settings := plainSettings "https://jira.example.com"

example : (plainTracker.changeRequest "QA-1" .activate).url =
      "https://jira.example.com/rest/api/2/issue/QA-1/transitions" ∧
    (plainTracker.changeRequest "QA-1" .activate).body.map Value.compact =
      some "\x7b\"transition\":\x7b\"id\":\"21\"\x7d\x7d" := by
  decide +kernel

end CaseRouting.Tracker
