import CaseRouting.Proofs.Json.Bytes
import CaseRouting.Proofs.Json.Records
import CaseRouting.Proofs.Tracker.Exchange
import CaseRouting.Proofs.Tracker.Query

/-!
# Searches of the tracker

A tracker that searches as its queries ask it to and answers with the first issues of what it finds,
as many as a request has room for. A filter with a limit asks for fewer issues than a page may hold,
and gets the same test cases as from a full page: without a title, either all that is found fits the
filter, or none of it does.
-/

namespace CaseRouting.Tracker

open Address (WebAddress)
open Connection (decodeBody)
open Decode
open Json (ReadsAs Value)
open Settings (TrackerSettings)
open Text (sameIgnoringAsciiCase)

variable {σ : Type} {s : TrackerSettings} {f : Filter} {i : Issue}

/-! ## What a query picks -/

/-- Names of statuses are compared up to the case of letters. -/
def StatusTest.holds (name : String) : StatusTest → Bool
  | .is other => sameIgnoringAsciiCase name other
  | .notIn first second =>
    !sameIgnoringAsciiCase name first && !sameIgnoringAsciiCase name second

/-- The query asks for the issue, where `answers` tells when a summary answers to a text. -/
def Query.picks (answers : String → String → Bool) (q : Query) (i : Issue) : Bool :=
  q.label.all (i.labels.contains ·) &&
    q.status.all (fun test => i.status.any fun name => test.holds name) &&
    q.summary.all (answers · i.summary)

/-- The deprecated cases are asked for by a name that stands for active ones. -/
def mixesNames (s : TrackerSettings) (f : Filter) : Bool :=
  f.status == some .deprecated && sameIgnoringAsciiCase s.deprecatedName s.activeName

/-- What is found for cases of a status has this status, unless the names are mixed. -/
theorem statusOf_of_holds {status : Status} {name : String}
    (h : (statusTest s status).holds name = true) :
    statusOf s (some name) =
      if status = .deprecated ∧ sameIgnoringAsciiCase s.deprecatedName s.activeName = true then .active
      else status := by
  cases status with
  | active => simp_all [statusTest, StatusTest.holds, statusOf]
  | draft => simp_all [statusTest, StatusTest.holds, statusOf]
  | deprecated =>
    simp only [statusTest, StatusTest.holds, sameIgnoringAsciiCase, beq_iff_eq] at h
    simp only [statusOf, sameIgnoringAsciiCase, h, beq_self_eq_true, if_true, true_and]

/-- All that is found for a filter without a title fits it, or none of it does. -/
theorem fits_of_picks {answers : String → String → Bool}
    (hpicks : (queryOf s f).picks answers i = true) (htitle : f.titleContains = none) :
    f.fits (i.toTestCase s) = !mixesNames s f := by
  simp only [Query.picks, queryOf, htitle, Option.all_none, Bool.and_true, Bool.and_eq_true] at hpicks
  obtain ⟨hlabel, hstatus⟩ := hpicks
  have hlabelFits : f.labelFits (i.toTestCase s) = true := hlabel
  have htitleFits : f.titleFits (i.toTestCase s) = true := by rw [Filter.titleFits, htitle]; rfl
  rw [Filter.fits, hlabelFits, htitleFits, Bool.and_true, Bool.and_true, Filter.statusFits, mixesNames]
  cases hf : f.status with
  | none => rfl
  | some status =>
    rw [hf, Option.map_some, Option.all_some, Option.any_eq_true] at hstatus
    obtain ⟨name, hname, hholds⟩ := hstatus
    have hfound : (i.toTestCase s).status = statusOf s (some name) := by rw [← hname]; rfl
    rw [Option.all_some, hfound, statusOf_of_holds hholds]
    by_cases hmixed : status = .deprecated ∧
        sameIgnoringAsciiCase s.deprecatedName s.activeName = true
    · obtain ⟨rfl, hsame⟩ := hmixed
      rw [if_pos ⟨rfl, hsame⟩, hsame]
      rfl
    · rw [if_neg hmixed]
      simpa [or_iff_not_imp_left] using hmixed

/-! ## Pages -/

/-- The first issues of a smaller page give the same test cases as those of a full page. -/
theorem apply_take_pageSize {issues : List Issue} {answers : String → String → Bool}
    (hheld : s.pageLimit < Nat.pow 2 32)
    (hpicks : ∀ i ∈ issues, (queryOf s f).picks answers i = true) :
    f.apply ((issues.take (pageSize s f)).map (Issue.toTestCase s)) =
      f.apply ((issues.take s.pageLimit).map (Issue.toTestCase s)) := by
  cases hlimit : f.limit with
  | none => rw [pageSize, hlimit]
  | some n =>
    cases htitle : f.titleContains with
    | some needle => rw [pageSize, hlimit, htitle]
    | none =>
      have hsize : pageSize s f = min n s.pageLimit := by
        rw [pageSize, hlimit, htitle]
        simp only [held32]
        split <;> omega
      have hfits (size : ℕ) : ∀ c ∈ (issues.take size).map (Issue.toTestCase s),
          f.fits c = !mixesNames s f := by
        rw [List.forall_mem_map]
        exact fun i hi => fits_of_picks (hpicks i (List.mem_of_mem_take hi)) htitle
      rw [Filter.apply, Filter.apply]
      cases hmixed : mixesNames s f with
      | true =>
        rw [hmixed] at hfits
        have hnone (size : ℕ) : ((issues.take size).map (Issue.toTestCase s)).filter f.fits = [] :=
          List.filter_eq_nil_iff.mpr fun c hc => by simp [hfits size c hc]
        rw [hnone, hnone]
      | false =>
        rw [hmixed] at hfits
        rw [List.filter_eq_self.mpr (hfits _), List.filter_eq_self.mpr (hfits _), hsize, Filter.cut,
          Filter.cut, hlimit]
        simp only [← List.map_take, List.take_take]
        congr 2
        omega

/-! ## A tracker that searches -/

theorem natural?_toString (n : ℕ) : Text.natural? (toString n).toList = some n := by
  have hdigits : (toString n).toList = Nat.toDigits 10 n := Nat.toList_repr
  have hall : (Nat.toDigits 10 n).all Char.isDigit = true :=
    List.all_eq_true.mpr fun _ => Nat.isDigit_of_mem_toDigits (by decide) (by decide)
  have hvalue : Text.numberOf (Nat.toDigits 10 n) = n := Nat.ofDigitChars_ten_toDigits
  have hplus : ∀ rest, Nat.toDigits 10 n ≠ '+' :: rest := by
    intro rest heq
    rw [heq, List.all_cons] at hall
    exact absurd (Bool.and_eq_true_iff.mp hall).1 (by decide)
  rw [hdigits]
  simp only [Text.natural?]
  rw [hall, hvalue, if_neg]
  simp [Nat.toDigits_ne_nil]

/-- What a tracker holds and how it searches: the issues of each project, the order of keys, when a
summary answers to a text, and how found issues are written so that they can be read. -/
structure SearchService where
  issuesOf : String → List Issue
  keyLe : String → String → Bool
  answers : String → String → Bool
  body : List Issue → Bytes
  decodeBody_body : ∀ issues, decodeBody Issue.foundDecoder ⟨200, body issues⟩ = .ok issues

namespace SearchService

variable (service : SearchService)

/-- All issues that a query asks for, in the order of their keys. -/
def found (q : Query) : List Issue :=
  ((service.issuesOf q.project).filter (q.picks service.answers)).insertionSort
    fun a b => service.keyLe a.key b.key

theorem mem_found_iff {q : Query} : i ∈ service.found q ↔
    i ∈ service.issuesOf q.project ∧ q.picks service.answers i = true := by
  rw [found, List.mem_insertionSort, List.mem_filter]

/-- The reply to a search at an address: the first issues that its query asks for. -/
def reply? (address : WebAddress) (r : Request) : Option Reply := do
  let parts ← r.url.toList.dropPrefix? (address.chars ++ ['?'])
  let pairs ← Address.readQuery? parts
  let text ← pairs.lookup "jql"
  let q ← Query.read? text.toList
  let count ← pairs.lookup "maxResults"
  let size ← Text.natural? count.toList
  pure ⟨200, service.body ((service.found q).take size)⟩

def transport (address : WebAddress) : Transport σ := fun r =>
  pure ((service.reply? address r).getD ⟨400, []⟩)

end SearchService

/-! ## Issues as they are sent -/

namespace Issue

def namedValue (name : String) : Value := .object [("name", .text name)]

def contentMembers (i : Issue) : List (String × Value) := [
  ("summary", .text i.summary), ("status", .option namedValue i.status),
  ("priority", .option namedValue i.priority), ("labels", .texts i.labels),
  ("updated", .option .text i.updated)]

def value (i : Issue) : Value :=
  .object [("key", .text i.key), ("fields", .object i.contentMembers)]

def foundValue (issues : List Issue) : Value := .object [("issues", .list (issues.map value))]

theorem readsAs_namedValue (name : String) : ReadsAs namedDecoder (namedValue name) name :=
  .record ((Json.Spells.of id).required "name" (.text name)) (by decide) _

theorem spells_contentMembers (i : Issue) :
    Json.Spells contentFields i.contentMembers fun key => { i with key := key } := by
  have hnamed (o : Option String) : ∀ name ∈ o, ReadsAs namedDecoder (namedValue name) name :=
    fun name _ => readsAs_namedValue name
  have hsummary := (Json.Spells.of fun summary status priority labels updated key =>
    (⟨key, summary, status, priority, labels, updated⟩ : Issue)).defaulted "summary" "" (.text i.summary)
  have hnames := (hsummary.nullable "status" namedValue i.status nofun (hnamed _)).nullable "priority"
    namedValue i.priority nofun (hnamed _)
  exact (hnames.defaulted "labels" [] (.texts i.labels)).nullableText "updated" i.updated

theorem readsAs_value (i : Issue) : ReadsAs decoder i.value i := by
  have hkey := (Json.Spells.of fun key (content : String → Issue) => content key).required "key"
    (.text i.key)
  exact .record (hkey.required "fields" (.record i.spells_contentMembers (by decide) "fields"))
    (by decide) "issue"

theorem decodeBody_foundValue (issues : List Issue) :
    decodeBody foundDecoder ⟨200, Text.bytesOf (foundValue issues).compact⟩ = .ok issues := by
  have hfound : ReadsAs foundDecoder (foundValue issues) issues :=
    .record ((Json.Spells.of id).defaulted "issues" [] (.list fun i _ => readsAs_value i)) (by decide) _
  rw [decodeBody_eq_ok_iff, Json.decodeBytes_bytesOf, hfound.decodeText_compact]

end Issue

/-- A tracker of one project, where a summary answers to the texts that it holds. -/
def SearchService.ofIssues (project : String) (issues : List Issue) : SearchService where
  issuesOf other := if other = project then issues else []
  keyLe a b := a ≤ b
  answers text summary := Text.hasInfix text.toList summary.toList
  body issues := Text.bytesOf (Issue.foundValue issues).compact
  decodeBody_body := Issue.decodeBody_foundValue

/-! ## Listings by page -/

theorem url_searchRequestOf (t : Connection) (f : Filter) (size : ℕ) :
    (t.searchRequestOf f size).url.toList = t.searchAddress.chars ++ ['?'] ++
      Address.queryChars [("jql", searchText t.settings f), ("fields", issueFields),
        ("maxResults", toString size)] := by
  rw [Connection.searchRequestOf, url_request_query t _ _ (List.cons_ne_nil _ _), String.toList_ofList,
    List.append_assoc, List.singleton_append]

/-- A search is understood, and answered with as many issues as it asks for. -/
theorem reply?_searchRequestOf (service : SearchService) (t : Connection) (f : Filter) (size : ℕ) :
    service.reply? t.searchAddress (t.searchRequestOf f size) =
      some ⟨200, service.body ((service.found (queryOf t.settings f)).take size)⟩ := by
  have hread : Query.read? (searchText t.settings f).toList = some (queryOf t.settings f) :=
    Query.read?_of_isWritten (isWritten_searchText _ _)
  rw [SearchService.reply?, url_searchRequestOf, dropPrefix?_append]
  simp only [Option.bind_eq_bind, Option.bind_some,
    Address.readQuery?_queryChars (List.cons_ne_nil _ _)]
  have hjql : List.lookup "jql" [("jql", searchText t.settings f), ("fields", issueFields),
      ("maxResults", toString size)] = some (searchText t.settings f) := rfl
  have hcount : List.lookup "maxResults" [("jql", searchText t.settings f), ("fields", issueFields),
      ("maxResults", toString size)] = some (toString size) := rfl
  rw [hjql, hcount]
  simp only [Option.bind_some, hread, natural?_toString]
  rfl

/-- Whatever page is asked for, the test cases are those of the first issues that are found. -/
theorem result_listCasesOf (service : SearchService) (t : Connection) (f : Filter) (size : ℕ) (x : σ) :
    (t.listCasesOf (service.transport t.searchAddress) f size x).result =
      .ok (f.apply (((service.found (queryOf t.settings f)).take size).map
        (Issue.toTestCase t.settings))) := by
  have hreply : (service.transport t.searchAddress (t.searchRequestOf f size) x).result =
      .ok ⟨200, service.body ((service.found (queryOf t.settings f)).take size)⟩ := by
    rw [SearchService.transport, reply?_searchRequestOf, Action.result_pure, Option.getD_some]
  rw [Connection.listCasesOf, Action.result_log_bind, Action.result_bind_of_ok hreply,
    Action.result_bind_of_ok (result_accept_eq_ok_iff.mpr (by simp)), service.decodeBody_body,
    Action.ofExcept_ok_bind, Action.result_pure]

/-- A listing over a tracker that searches asks for no more issues than a page may hold and than the
filter takes, and ends as it would with a full page. -/
theorem list_eq_list_of_full_page (service : SearchService) (t : Connection) (now : Instant)
    (f : Filter) (x : σ) (hheld : t.settings.pageLimit < Nat.pow 2 32) :
    let transport : Transport σ := service.transport t.searchAddress
    ((gatewayOver transport t now).list f x).result =
        (t.listCasesOf transport f t.settings.pageLimit x).result ∧
      ((gatewayOver transport t now).list f x).result =
        .ok (f.apply (((service.found (queryOf t.settings f)).take t.settings.pageLimit).map
          (Issue.toTestCase t.settings))) := by
  intro transport
  have hfound : ∀ i ∈ service.found (queryOf t.settings f),
      (queryOf t.settings f).picks service.answers i = true :=
    fun i hi => (service.mem_found_iff.mp hi).2
  have hpage : ((gatewayOver transport t now).list f x).result =
      .ok (f.apply (((service.found (queryOf t.settings f)).take (pageSize t.settings f)).map
        (Issue.toTestCase t.settings))) :=
    result_listCasesOf service t f (pageSize t.settings f) x
  rw [apply_take_pageSize hheld hfound] at hpage
  exact ⟨hpage.trans (result_listCasesOf service t f _ x).symm, hpage⟩

/-- One issue is asked for and listed, as from a full page. -/
theorem list_first_eq_list_of_full_page :
    let login : Issue := ⟨"QA-1", "Login", some "Active", none, ["smoke"], none⟩
    let logout : Issue := ⟨"QA-2", "Logout", some "Active", some "High", [], none⟩
    let transport : Transport Unit :=
      (SearchService.ofIssues "QA" [logout, login]).transport plainTracker.searchAddress
    let f : Filter := { status := some .active, label := none, titleContains := none, limit := some 1 }
    let listed := ((gatewayOver transport plainTracker (.startOfYear 2024)).list f ()).result
    pageSize plainTracker.settings f = 1 ∧
      listed = (plainTracker.listCasesOf transport f 100 ()).result ∧
      listed = .ok [⟨"QA-1", "Login", .active, none, ["smoke"], none⟩] := by
  intro login logout transport f listed
  obtain ⟨hfull, hfound⟩ := list_eq_list_of_full_page
    (SearchService.ofIssues "QA" [logout, login]) plainTracker (.startOfYear 2024) f () (by decide)
  have hcases : f.apply ((((SearchService.ofIssues "QA" [logout, login]).found
      (queryOf plainTracker.settings f)).take plainTracker.settings.pageLimit).map
        (Issue.toTestCase plainTracker.settings)) =
      [⟨"QA-1", "Login", .active, none, ["smoke"], none⟩] := by decide +kernel
  have hsize : pageSize plainTracker.settings f = 1 := by decide +kernel
  exact ⟨hsize, hfull, hfound.trans (congrArg Except.ok hcases)⟩

end CaseRouting.Tracker
