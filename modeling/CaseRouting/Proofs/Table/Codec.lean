import CaseRouting.Proofs.Json.Values
import CaseRouting.Proofs.Table.Row
import CaseRouting.Proofs.TestCase.Basic

/-!
# Rows written and read back

The row that is written for a test case gives it back, whatever characters its texts hold, exactly
when its time has a year of four digits.
-/

namespace CaseRouting.Table

variable {c d : TestCase} {cs : List TestCase}

def textsOf (c : TestCase) : RowTexts where
  id := c.id
  title := c.title
  status := c.status.name
  priority := c.priority
  labels := (Json.Value.texts c.labels).compact
  updatedAt := c.updatedAt.map Instant.stored

theorem Row.texts_ofTestCase (c : TestCase) : (ofTestCase c).texts = .ok (textsOf c) := by
  rw [texts_eq_ok_iff]
  rfl

theorem labelList_textsOf (c : TestCase) : (textsOf c).labelList = .ok c.labels := by
  unfold RowTexts.labelList
  rw [show (textsOf c).labels = (Json.Value.texts c.labels).compact from rfl,
    Json.decodeText_compact_texts]

theorem instant_textsOf_eq_ok_iff {u : Option Instant} :
    (textsOf c).instant = .ok u ↔ c.HasStorableTime ∧ u = c.updatedAt := by
  unfold RowTexts.instant textsOf TestCase.HasStorableTime
  dsimp only
  cases c.updatedAt with
  | none => simp [eq_comm]
  | some t =>
    by_cases hyear : t.HasFourDigitYear
    · simp [Instant.ofRfc3339_stored hyear, hyear, eq_comm]
    · obtain ⟨e, he⟩ := Instant.exists_ofRfc3339_stored_eq_error hyear
      simp [he, hyear]

/-- A row gives back the test case that was put into it exactly when its time can be stored. -/
theorem Row.toTestCase_ofTestCase_eq_ok_iff :
    (ofTestCase c).toTestCase = .ok d ↔ c.HasStorableTime ∧ d = c := by
  have htexts : (ofTestCase c).toTestCase = .ok d ↔ (textsOf c).toTestCase = .ok d := by
    rw [toTestCase_eq_ok_iff, texts_ofTestCase]
    simp
  have hstatus : Status.ofCell? (textsOf c).status = some c.status := Status.ofCell?_name c.status
  rw [htexts, RowTexts.toTestCase_eq_ok_iff, hstatus, labelList_textsOf, instant_textsOf_eq_ok_iff]
  rcases c with ⟨id, title, status, priority, labels, updatedAt⟩
  rcases d with ⟨did, dtitle, dstatus, dpriority, dlabels, dupdatedAt⟩
  simp only [textsOf, Option.some.injEq, Except.ok.injEq, TestCase.mk.injEq]
  constructor
  · rintro ⟨rfl, rfl, rfl, rfl, rfl, htime, rfl⟩
    exact ⟨htime, rfl, rfl, rfl, rfl, rfl, rfl⟩
  · rintro ⟨htime, rfl, rfl, rfl, rfl, rfl, rfl⟩
    exact ⟨rfl, rfl, rfl, rfl, rfl, htime, rfl⟩

theorem casesOf_map_ofTestCase (h : ∀ c ∈ cs, c.HasStorableTime) :
    casesOf (cs.map Row.ofTestCase) = .ok cs := by
  rw [casesOf_eq_ok_iff, List.forall₂_map_left_iff, List.forall₂_same]
  intro c hc
  exact Row.toTestCase_ofTestCase_eq_ok_iff.mpr ⟨h c hc, rfl⟩

theorem findRow_map_ofTestCase (id : String) (cs : List TestCase) :
    findRow id (cs.map Row.ofTestCase) = (cs.find? (·.id == id)).map Row.ofTestCase := by
  have hid : (fun c : TestCase => (Row.ofTestCase c).id == .text id) = fun c => c.id == id := by
    funext c
    simp [Row.ofTestCase, Bool.beq_eq_decide_eq]
  unfold findRow
  rw [List.find?_map]
  exact congrArg (fun p => Option.map _ (List.find? p cs)) hid

theorem hasUniqueIds_map_ofTestCase (h : (cs.map TestCase.id).Nodup) :
    HasUniqueIds (cs.map Row.ofTestCase) := by
  unfold HasUniqueIds
  unfold List.Nodup at h
  rw [List.pairwise_map] at h ⊢
  refine h.imp ?_
  intro a b hne he
  exact absurd (Cell.text.inj he) hne

end CaseRouting.Table
