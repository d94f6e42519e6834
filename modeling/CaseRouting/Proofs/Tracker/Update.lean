import CaseRouting.Proofs.Json.Bytes
import CaseRouting.Proofs.TestCase.Basic
import CaseRouting.Proofs.Tracker.Exchange
import CaseRouting.Proofs.Tracker.Issue

/-!
# Updates of an issue

The request for an update holds the fields that it gives and no others. An issue with these fields in
place of its own stands for the test case that the update returns, but for the time of the change.
-/

namespace CaseRouting.Tracker

open Decode
open Doc (member? setMember setMembers)
open Json (Value)

variable {members fields : List (Doc × Doc)} {closed inner : Bool} {issue : Issue}
  {changes : Changes}

/-! ## What an update sends -/

theorem mem_givenFields_iff {name : String} :
    name ∈ (givenFields changes).map (·.1) ↔
      name = "summary" ∧ changes.title.isSome ∨ name = "priority" ∧ changes.priority.isSome ∨
        name = "labels" ∧ changes.labels.isSome := by
  have hkey {α : Type} (o : Option α) (key : String) (f : α → Doc) :
      name ∈ (o.map fun a => (key, f a)).toList.map (·.1) ↔ name = key ∧ o.isSome := by
    cases o <;> simp
  simp only [givenFields, List.map_append, List.mem_append, hkey]
  tauto

/-! ## What is left by an update -/

def withFields (given : List (String × Doc)) : Doc → Doc
  | .object members closed =>
    match member? "fields" members with
    | some (.object fields inner) =>
      .object (setMember "fields" (.object (setMembers given fields) inner) members) closed
    | _ => .object members closed
  | d => d

def Issue.withChanges (i : Issue) (changes : Changes) : Issue :=
  { i with
    summary := changes.title.getD i.summary
    priority := changes.priority.or i.priority
    labels := changes.labels.getD i.labels }

theorem hasContent_setMembers {i : Issue} (h : i.HasContent fields closed) (changes : Changes) :
    (i.withChanges changes).HasContent (setMembers (givenFields changes) fields) closed := by
  rw [givenFields, Doc.setMembers_append, Doc.setMembers_append]
  obtain ⟨title, priority, labels⟩ := changes
  have htitle : Issue.HasContent
      (setMembers (title.map fun s => ("summary", Doc.ofText s)).toList fields) closed
      { i with summary := title.getD i.summary } := by
    cases title with
    | none => exact h
    | some s => exact h.setSummary s
  have hpriority : Issue.HasContent (setMembers
      (priority.map fun p => ("priority", Doc.ofMembers [("name", .ofText p)])).toList
      (setMembers (title.map fun s => ("summary", Doc.ofText s)).toList fields)) closed
      { i with summary := title.getD i.summary, priority := priority.or i.priority } := by
    cases priority with
    | none => exact htitle
    | some p => exact htitle.setPriority p
  cases labels with
  | none => exact hpriority
  | some ls => exact hpriority.setLabels ls

/-- Setting the given fields of an issue changes these and nothing else of what it is read as. -/
theorem decoder_withFields (hfields : member? "fields" members = some (.object fields inner))
    (h : Issue.decoder .stream (.object members closed) = .ok issue) (changes : Changes) :
    Issue.decoder .stream (withFields (givenFields changes) (.object members closed)) =
      .ok (issue.withChanges changes) := by
  obtain ⟨hwalks, hkey, hcontent⟩ := (Issue.decoder_eq_ok_iff hfields).mp h
  have hnew := hasContent_setMembers hcontent changes
  have hset : member? "fields" (setMember "fields"
      (.object (setMembers (givenFields changes) fields) inner) members) =
        some (.object (setMembers (givenFields changes) fields) inner) := by
    rw [Doc.member?_setMember, if_pos rfl]
  simp only [withFields, hfields]
  refine (Issue.decoder_eq_ok_iff hset).mpr ⟨?_, ?_, hnew⟩
  · exact hwalks.setMember rfl (map_eq_ok_iff.mpr ⟨_, hnew.contentDecoder_eq, rfl⟩)
  · exact (Field.reads_setMember_of_ne (by decide)).mpr hkey

/-! ## The update -/

theorem toTestCase_withChanges {settings : Settings.TrackerSettings} {now : Instant} {d : TestCase}
    (h : (issue.toTestCase settings).apply now changes = .ok d) :
    (issue.withChanges changes).toTestCase settings =
      { d with updatedAt := (issue.toTestCase settings).updatedAt } := by
  rw [(TestCase.apply_eq_ok_iff.mp h).2.2]
  rfl

/-- Where the tracker answers with an issue and the change is allowed, the request for the update
succeeds or fails with the update. It gives the fields that the change has. With them in place of its
own, the issue stands for the test case that the update returns, but for the time. -/
theorem update_gives_reported_fields {σ : Type} {transport : Transport σ} {t : Connection}
    {now : Instant} {id : String} {s : σ} {reply : Reply} {d : TestCase}
    (hreply : (transport (t.issueRequest id) s).result = .ok reply)
    (hsuccess : reply.isSuccess = true)
    (hobject : (Json.readBytes reply.body).1 = .object members closed)
    (hfields : member? "fields" members = some (.object fields inner))
    (hissue : Connection.decodeBody Issue.decoder reply = .ok issue)
    (hd : (issue.toTestCase t.settings).apply now changes = .ok d) :
    let put := transport (t.fieldsRequest id changes) (transport (t.issueRequest id) s).state
    let done := (gatewayOver transport t now).command (.update changes) id s
    done.state = put.state ∧ (∀ e, done.result = .ok e ↔ IsAccepted put.result ∧ e = d) ∧
      ∃ sent given, (t.fieldsRequest id changes).body = some sent ∧
        Json.read sent.compact = (.ofMembers [("fields", .ofMembers given)], []) ∧
        (∀ name, name ∈ given.map (·.1) ↔
          name = "summary" ∧ changes.title.isSome ∨ name = "priority" ∧ changes.priority.isSome ∨
            name = "labels" ∧ changes.labels.isSome) ∧
        (∀ name, name ∉ given.map (·.1) →
          member? name (setMembers given fields) = member? name fields) ∧
        ∃ issue', Issue.decoder .stream (withFields given (Json.readBytes reply.body).1) = .ok issue' ∧
          issue'.key = issue.key ∧ issue'.status = issue.status ∧
          issue'.toTestCase t.settings =
            { d with updatedAt := (issue.toTestCase t.settings).updatedAt } := by
  intro put done
  have hdecode := decodeBody_eq_ok_iff.mp hissue
  have hbrings : t.Brings (transport (t.issueRequest id) s).result (issue.toTestCase t.settings) :=
    ⟨reply, issue, hreply, isSuccess_iff.mp hsuccess, hdecode, rfl⟩
  obtain ⟨hstate, hok, herror⟩ := runCommand_of_brings transport s hbrings
    (show Command.run now (.update changes) _ = .ok d from hd)
  have hresult (e : TestCase) : done.result = .ok e ↔ IsAccepted put.result ∧ e = d := by
    by_cases haccepted : IsAccepted put.result
    · have hdone : done.result = .ok d := hok haccepted
      rw [hdone, Except.ok.injEq, eq_comm]
      exact (and_iff_right haccepted).symm
    · obtain ⟨fault, hdone⟩ := herror haccepted
      have hdone : done.result = .error fault := hdone
      rw [hdone]
      exact iff_of_false (by simp) fun h => haccepted h.1
  obtain ⟨sent, hsent, hread⟩ := (t.sends_fieldsRequest id changes).exists_body
  have hread' := (Json.decodeRead_eq_ok_iff.mp hdecode).1
  rw [hobject] at hread' ⊢
  exact ⟨hstate, hresult, sent, givenFields changes, hsent, hread, fun name => mem_givenFields_iff,
    fun name hname => Doc.member?_setMembers_of_notMem hname fields, issue.withChanges changes,
    decoder_withFields hfields hread' changes, rfl, rfl, toTestCase_withChanges hd⟩

/-- The fields of an issue without a priority, some of them unknown. -/
def plainFields : List (String × Value) :=
  [("labels", .texts ["smoke"]), ("priority", .null), ("reporter", .object [("name", .text "qa")]),
    ("status", .object [("name", .text "Active")]), ("summary", .text "Login")]

def plainIssue : Value := .object [("fields", .object plainFields), ("key", .text "QA-1")]

/-- The update of a title and a priority, where the old priority is none. -/
theorem update_gives_reported_fields_plainIssue :
    let changes : Changes := ⟨some "Sign \"in\"", some "High", none⟩
    let d : TestCase := ⟨"QA-1", "Sign \"in\"", .active, some "High", ["smoke"],
      some (.startOfYear 2024)⟩
    let server : Server := ⟨true, [⟨200, Text.bytesOf plainIssue.compact⟩, ⟨204, []⟩], []⟩
    ((gateway plainTracker (.startOfYear 2024)).command (.update changes) "QA-1" server).result =
        .ok d ∧
      ∃ given, ((plainTracker.fieldsRequest "QA-1" changes).body.map fun sent =>
          Json.read sent.compact) = some (.ofMembers [("fields", .ofMembers given)], []) ∧
        ∃ issue', Issue.decoder .stream (withFields given plainIssue.doc) = .ok issue' ∧
          issue'.toTestCase plainTracker.settings = { d with updatedAt := none } := by
  intro changes d server
  have hplain : plainIssue.IsPlain := by
    simp [plainIssue, plainFields, Value.IsPlain, Value.HavePlain, Json.isPlain_texts]
  have hread : Json.readBytes (Text.bytesOf plainIssue.compact) = (plainIssue.doc, []) :=
    (Json.readBytes_of_decodeUtf8 (Text.decodeUtf8_bytesOf _)).trans (Json.read_compact hplain)
  have hissue : Connection.decodeBody Issue.decoder ⟨200, Text.bytesOf plainIssue.compact⟩ =
      .ok ⟨"QA-1", "Login", some "Active", none, ["smoke"], none⟩ := by
    rw [decodeBody_eq_ok_iff, Json.decodeBytes, Json.decodeRead_eq_ok_iff, hread]
    exact ⟨rfl, rfl⟩
  have hreply : (send (plainTracker.issueRequest "QA-1") server).result =
      .ok ⟨200, Text.bytesOf plainIssue.compact⟩ := rfl
  have hput : IsAccepted (send (plainTracker.fieldsRequest "QA-1" changes)
      (send (plainTracker.issueRequest "QA-1") server).state).result :=
    ⟨⟨204, []⟩, rfl, by decide⟩
  have hd : TestCase.apply (.startOfYear 2024) changes (Issue.toTestCase plainTracker.settings
      ⟨"QA-1", "Login", some "Active", none, ["smoke"], none⟩) = .ok d := by decide +kernel
  have hobject : (Json.readBytes (Reply.body ⟨200, Text.bytesOf plainIssue.compact⟩)).1 =
      .object [(.ofText "fields", (Value.object plainFields).doc), (.ofText "key", .ofText "QA-1")]
        true := by
    dsimp only
    rw [hread]
    rfl
  obtain ⟨-, hresult, sent, given, hsent, hgiven, -, -, issue', hissue', -, -, hcase⟩ :=
    update_gives_reported_fields hreply rfl hobject rfl hissue hd
  refine ⟨(hresult d).mpr ⟨hput, rfl⟩, given, ?_, issue', ?_, hcase⟩
  · rw [hsent, Option.map_some, hgiven]
  · rw [← hissue', hread]

end CaseRouting.Tracker
