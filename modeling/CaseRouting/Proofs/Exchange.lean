import CaseRouting.Proofs.Instant.Exchanged
import CaseRouting.Proofs.Json.Records
import CaseRouting.Request
import CaseRouting.Settings.Basic

/-!
# What is exchanged comes back

Every value that is exchanged is read back from its own text, whatever characters its texts hold and
whatever parts are absent. Only its numbers and times must be ones that are held: counts of 64 bits,
and years that a date may have.
-/

namespace CaseRouting

open Decode
open Json (ReadsAs Spells Value decodeText)

/-! ## Sources, states and times -/

theorem Source.ofName_name (s : Source) : ofName s.name = .ok s := by
  have hname : ofName? s.name = some s := by cases s <;> decide +kernel
  rw [ofName, hname]

theorem Source.readsAs_toJson (s : Source) : ReadsAs decoder s.toJson s := by
  refine ⟨trivial, ?_⟩
  rw [toJson, Value.doc, decoder, Doc.ofText, text, textFor, ok_bind, ofName_name]
  rfl

theorem Status.readsAs_toJson (s : Status) : ReadsAs decoder s.toJson s :=
  ⟨trivial, by cases s <;> rfl⟩

/-- The time has a year that a date may have. -/
def Instant.IsHeld (t : Instant) : Prop := Date.supported t.date.year = true

instance (t : Instant) : Decidable t.IsHeld := inferInstanceAs (Decidable (_ = true))

theorem Instant.readsAs_toJson {t : Instant} (h : t.IsHeld) : ReadsAs decoder t.toJson t := by
  refine ⟨trivial, ?_⟩
  rw [toJson, Value.doc, decoder, Doc.ofText, textFor, ok_bind, ofLenient_zulu h]
  rfl

theorem readsAs_count {n : ℕ} (h : n < Nat.pow 2 64) : ReadsAs countDecoder (.whole n) n :=
  .natural h le_rfl "usize"

/-! ## Test cases, changes and filters -/

def TestCase.IsHeld (c : TestCase) : Prop := ∀ t ∈ c.updatedAt, t.IsHeld

theorem TestCase.readsAs_toJson {c : TestCase} (h : c.IsHeld) (name : String) :
    ReadsAs (record name fields) c.toJson c := by
  have hspells := Spells.of TestCase.mk
    |>.required "id" (.text c.id)
    |>.required "title" (.text c.title)
    |>.required "status" c.status.readsAs_toJson
    |>.nullableText "priority" c.priority
    |>.required "labels" (.texts c.labels)
    |>.nullable "updated_at" Instant.toJson c.updatedAt nofun fun t ht =>
      Instant.readsAs_toJson (h t ht)
  exact .record hspells (by decide) name

theorem Changes.readsAs_toJson (c : Changes) : ReadsAs decoder c.toJson c := by
  have hspells := Spells.of Changes.mk
    |>.nullableText "title" c.title
    |>.nullableText "priority" c.priority
    |>.nullable "labels" Value.texts c.labels nofun fun ls _ => ReadsAs.texts ls
  exact .record hspells (by decide) _

def Filter.IsHeld (f : Filter) : Prop := ∀ n ∈ f.limit, n < Nat.pow 2 64

theorem Filter.readsAs_toJson {f : Filter} (h : f.IsHeld) : ReadsAs decoder f.toJson f := by
  have hspells := Spells.of Filter.mk
    |>.nullable "status" Status.toJson f.status nofun (fun s _ => s.readsAs_toJson)
    |>.nullableText "label" f.label
    |>.nullableText "title_contains" f.titleContains
    |>.nullable "limit" (fun n => .whole (n : ℤ)) f.limit nofun fun n hn => readsAs_count (h n hn)
  have hread := ReadsAs.record hspells (by decide) "TestCaseFilter"
  obtain ⟨status, label, titleContains, limit⟩ := f
  -- The limit is written as an integer, so its value has to be looked at.
  cases limit <;> exact hread

/-! ## Requests and replies -/

theorem CaseRequest.readsAs_toJson (r : CaseRequest) (name : String) :
    ReadsAs (record name fields) r.toJson r := by
  have hspells := Spells.of CaseRequest.mk
    |>.required "test_case_id" (.text r.id)
    |>.required "source" r.source.readsAs_toJson
  exact .record hspells (by decide) name

theorem UpdateRequest.readsAs_toJson (r : UpdateRequest) : ReadsAs decoder r.toJson r := by
  have hspells := Spells.of UpdateRequest.mk
    |>.required "test_case_id" (.text r.id)
    |>.required "changes" r.changes.readsAs_toJson
    |>.required "source" r.source.readsAs_toJson
  exact .record hspells (by decide) _

theorem ListRequest.readsAs_toJson {r : ListRequest} (h : r.filter.IsHeld) :
    ReadsAs decoder r.toJson r := by
  have hspells := Spells.of ListRequest.mk
    |>.defaulted "filter" Filter.all (Filter.readsAs_toJson h)
    |>.required "source" r.source.readsAs_toJson
  exact .record hspells (by decide) _

def Receipt.IsHeld (r : Receipt) : Prop := ∀ t ∈ r.updatedAt, t.IsHeld

theorem Receipt.readsAs_toJson {r : Receipt} (h : r.IsHeld) : ReadsAs decoder r.toJson r := by
  have hspells := Spells.of Receipt.mk
    |>.required "test_case_id" (.text r.id)
    |>.required "status" r.status.readsAs_toJson
    |>.nullable "updated_at" Instant.toJson r.updatedAt nofun fun t ht =>
      Instant.readsAs_toJson (h t ht)
  exact .record hspells (by decide) _

def Listing.IsHeld (l : Listing) : Prop := (∀ c ∈ l.items, c.IsHeld) ∧ l.total < Nat.pow 2 64

theorem Listing.readsAs_toJson {l : Listing} (h : l.IsHeld) : ReadsAs decoder l.toJson l := by
  have hspells := Spells.of Listing.mk
    |>.required "source" l.source.readsAs_toJson
    |>.required "items" (.list fun c hc => TestCase.readsAs_toJson (h.1 c hc) "TestCaseView")
    |>.required "total" (readsAs_count h.2)
  exact .record hspells (by decide) _

/-! ## Settings -/

namespace Settings

theorem SheetSettings.readsAs_toJson (s : SheetSettings) : ReadsAs decoder s.toJson s := by
  have hspells := Spells.of SheetSettings.mk |>.required "path" (.text s.path)
  exact .record hspells (by decide) _

/-- The timeout is held in 64 bits, and the size of a page in 32. -/
def TrackerSettings.IsHeld (s : TrackerSettings) : Prop :=
  (∀ n ∈ s.timeoutSeconds, n < Nat.pow 2 64) ∧ ∀ n ∈ s.maxResults, n < Nat.pow 2 32

theorem TrackerSettings.readsAs_toJson {s : TrackerSettings} (h : s.IsHeld) :
    ReadsAs decoder s.toJson s := by
  have hspells := Spells.of TrackerSettings.mk
    |>.required "base_url" (.text s.baseUrl)
    |>.required "project_key" (.text s.projectKey)
    |>.nullableText "username" s.username
    |>.nullableText "api_token" s.apiToken
    |>.nullable "timeout_seconds" (fun n => .whole (n : ℤ)) s.timeoutSeconds nofun
      (fun n hn => ReadsAs.natural (h.1 n hn) le_rfl "u64")
    |>.nullable "max_results" (fun n => .whole (n : ℤ)) s.maxResults nofun
      (fun n hn => ReadsAs.natural (h.2 n hn) (by decide) "u32")
    |>.required "activate_transition_id" (.text s.activateTransition)
    |>.required "deactivate_transition_id" (.text s.deactivateTransition)
    |>.nullableText "active_status" s.activeStatus
    |>.nullableText "deprecated_status" s.deprecatedStatus
  exact .record hspells (by decide) _

theorem DatabaseSettings.readsAs_toJson (s : DatabaseSettings) : ReadsAs decoder s.toJson s := by
  have hspells := Spells.of DatabaseSettings.mk |>.required "path" (.text s.path)
  exact .record hspells (by decide) _

theorem LogSettings.readsAs_toJson (s : LogSettings) : ReadsAs decoder s.toJson s := by
  have hspells := Spells.of LogSettings.mk
    |>.nullableText "level" s.level
    |>.nullable "json" Value.bool s.json nofun fun b _ => ReadsAs.bool b
  exact .record hspells (by decide) _

theorem RouterSettings.readsAs_toJson (s : RouterSettings) : ReadsAs decoder s.toJson s := by
  have hspells := Spells.of RouterSettings.mk
    |>.defaulted "require_all_sources" true (.bool s.requireAllSources)
  exact .record hspells (by decide) _

def SourceSettings.IsHeld (s : SourceSettings) : Prop := ∀ t ∈ s.tracker, t.IsHeld

theorem SourceSettings.readsAs_toJson {s : SourceSettings} (h : s.IsHeld) :
    ReadsAs decoder s.toJson s := by
  have hspells := Spells.of SourceSettings.mk
    |>.nullable "csv" SheetSettings.toJson s.sheet nofun (fun s _ => s.readsAs_toJson)
    |>.nullable "jira" TrackerSettings.toJson s.tracker nofun
      (fun t ht => TrackerSettings.readsAs_toJson (h t ht))
    |>.nullable "database" DatabaseSettings.toJson s.database nofun fun s _ => s.readsAs_toJson
  exact .record hspells (by decide) _

end Settings

theorem Settings.readsAs_toJson {s : Settings} (h : s.sources.IsHeld) :
    ReadsAs decoder s.toJson s := by
  have hlogging : ReadsAs (optional LogSettings.decoder)
      (.option LogSettings.toJson s.logging) s.logging :=
    .optional nofun fun l _ => l.readsAs_toJson
  have hspells := Spells.of Settings.mk
    |>.defaulted "router" ⟨true⟩ s.router.readsAs_toJson
    |>.defaulted "logging" none hlogging
    |>.defaulted "sources" SourceSettings.none (SourceSettings.readsAs_toJson h)
  exact .record hspells (by decide) _

/-! ## All values -/

/-- Whatever is exchanged is decoded from its text as it was. -/
theorem decodeText_toJson :
    (∀ s : Source, decodeText Source.decoder s.toJson.compact = .ok s) ∧
    (∀ s : Status, decodeText Status.decoder s.toJson.compact = .ok s) ∧
    (∀ c : TestCase, c.IsHeld → decodeText TestCase.decoder c.toJson.compact = .ok c ∧
      decodeText TestCase.viewDecoder c.toJson.compact = .ok c) ∧
    (∀ c : Changes, decodeText Changes.decoder c.toJson.compact = .ok c) ∧
    (∀ f : Filter, f.IsHeld → decodeText Filter.decoder f.toJson.compact = .ok f) ∧
    (∀ r : CaseRequest, decodeText CaseRequest.activateDecoder r.toJson.compact = .ok r ∧
      decodeText CaseRequest.deactivateDecoder r.toJson.compact = .ok r ∧
      decodeText CaseRequest.getDecoder r.toJson.compact = .ok r) ∧
    (∀ r : UpdateRequest, decodeText UpdateRequest.decoder r.toJson.compact = .ok r) ∧
    (∀ r : ListRequest, r.filter.IsHeld →
      decodeText ListRequest.decoder r.toJson.compact = .ok r) ∧
    (∀ r : Receipt, r.IsHeld → decodeText Receipt.decoder r.toJson.compact = .ok r) ∧
    (∀ l : Listing, l.IsHeld → decodeText Listing.decoder l.toJson.compact = .ok l) ∧
    (∀ s : Settings, s.sources.IsHeld →
      decodeText Settings.decoder s.toJson.compact = .ok s) := by
  refine ⟨fun s => s.readsAs_toJson.decodeText_compact,
    fun s => s.readsAs_toJson.decodeText_compact, fun c h => ⟨?_, ?_⟩,
    fun c => c.readsAs_toJson.decodeText_compact,
    fun f h => (f.readsAs_toJson h).decodeText_compact, fun r => ⟨?_, ?_, ?_⟩,
    fun r => r.readsAs_toJson.decodeText_compact,
    fun r h => (r.readsAs_toJson h).decodeText_compact,
    fun r h => (r.readsAs_toJson h).decodeText_compact,
    fun l h => (l.readsAs_toJson h).decodeText_compact,
    fun s h => (s.readsAs_toJson h).decodeText_compact⟩
  · exact (TestCase.readsAs_toJson h "TestCase").decodeText_compact
  · exact (TestCase.readsAs_toJson h "TestCaseView").decodeText_compact
  · exact (r.readsAs_toJson "ActivateTestCaseRequest").decodeText_compact
  · exact (r.readsAs_toJson "DeactivateTestCaseRequest").decodeText_compact
  · exact (r.readsAs_toJson "GetTestCaseRequest").decodeText_compact

/-- A leap second in the last year that a date may have, to the nanosecond. -/
def lateLeapSecond : Instant where
  date := (Instant.startOfYear 262142).date
  time := ⟨23, 59, 60, 999999999, by decide, by decide, by decide, by decide⟩

/-- The first moment of the first year that a date may have, in a case full of marks. -/
def firstMarkedCase : TestCase where
  id := "\"\\\n\x00\x7f"
  title := "𝄞, ½"
  status := .deprecated
  priority := some ""
  labels := ["", ",", "\t"]
  updatedAt := some (Instant.startOfYear (-262143))

theorem decodeText_toJson_of_extremes :
    let receipt : Receipt := ⟨"null", .active, some lateLeapSecond⟩
    let listing : Listing := ⟨.database, [firstMarkedCase, firstMarkedCase], Nat.pow 2 64 - 1⟩
    decodeText Receipt.decoder receipt.toJson.compact = .ok receipt ∧
      decodeText Listing.decoder listing.toJson.compact = .ok listing := by
  have hcase : firstMarkedCase.IsHeld := by
    rintro t ⟨⟩
    decide
  have hreceipt : ∀ t ∈ some lateLeapSecond, t.IsHeld := by
    rintro t ⟨⟩
    decide
  obtain ⟨_, _, _, _, _, _, _, _, receipts, listings, _⟩ := decodeText_toJson
  exact ⟨receipts _ hreceipt, listings _ ⟨by simp [hcase], by decide⟩⟩

end CaseRouting
