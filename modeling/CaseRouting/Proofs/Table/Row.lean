import CaseRouting.Proofs.Action
import CaseRouting.Table.Gateway

/-!
# Rows of the table and their test cases

A row that is read has texts in all its cells but those that may be empty, and each field of its
test case comes from one of them.
-/

namespace CaseRouting.Table

variable {r : Row} {c : TestCase} {rows : List Row} {cs : List TestCase}

theorem Cell.required_eq_ok_iff {index : ℕ} {name s : String} {cell : Cell} :
    cell.required index name = .ok s ↔ cell = .text s := by
  cases cell <;> simp [Cell.required]

theorem Cell.optional_eq_ok_iff {index : ℕ} {name : String} {s : Option String} {cell : Cell} :
    cell.optional index name = .ok s ↔ cell = .ofOption s := by
  cases cell <;> cases s <;> simp [Cell.optional, Cell.ofOption]

theorem Row.texts_eq_ok_iff {t : RowTexts} :
    r.texts = .ok t ↔ r = ⟨.text t.id, .text t.title, .text t.status, .ofOption t.priority,
      .text t.labels, .ofOption t.updatedAt⟩ := by
  rcases r with ⟨id, title, status, priority, labels, updatedAt⟩
  rcases t with ⟨tid, ttitle, tstatus, tpriority, tlabels, tupdatedAt⟩
  simp only [Row.texts, bind_eq_ok_iff, Cell.required_eq_ok_iff, Cell.optional_eq_ok_iff,
    pure_eq_ok, Except.ok.injEq, RowTexts.mk.injEq, Row.mk.injEq]
  constructor
  · rintro ⟨_, rfl, _, rfl, _, rfl, _, rfl, _, rfl, _, rfl, rfl, rfl, rfl, rfl, rfl, rfl⟩
    exact ⟨rfl, rfl, rfl, rfl, rfl, rfl⟩
  · rintro ⟨rfl, rfl, rfl, rfl, rfl, rfl⟩
    exact ⟨_, rfl, _, rfl, _, rfl, _, rfl, _, rfl, _, rfl, rfl, rfl, rfl, rfl, rfl, rfl⟩

theorem RowTexts.toTestCase_eq_ok_iff {t : RowTexts} :
    t.toTestCase = .ok c ↔ t.id = c.id ∧ t.title = c.title ∧
      Status.ofCell? t.status = some c.status ∧ t.priority = c.priority ∧
        t.labelList = .ok c.labels ∧ t.instant = .ok c.updatedAt := by
  rcases c with ⟨id, title, status, priority, labels, updatedAt⟩
  rw [RowTexts.toTestCase]
  cases hstatus : Status.ofCell? t.status with
  | none => simp
  | some status' =>
    simp only [bind_eq_ok_iff, pure_eq_ok, Except.ok.injEq, TestCase.mk.injEq,
      Option.some.injEq]
    constructor
    · rintro ⟨_, hlabels, _, hinstant, rfl, rfl, rfl, rfl, rfl, rfl⟩
      exact ⟨rfl, rfl, rfl, rfl, hlabels, hinstant⟩
    · rintro ⟨rfl, rfl, rfl, rfl, hlabels, hinstant⟩
      exact ⟨_, hlabels, _, hinstant, rfl, rfl, rfl, rfl, rfl, rfl⟩

theorem Row.toTestCase_eq_ok_iff :
    r.toTestCase = .ok c ↔ ∃ t, r.texts = .ok t ∧ t.toTestCase = .ok c := by
  rw [Row.toTestCase, bind_eq_ok_iff]

theorem Row.id_of_toTestCase (h : r.toTestCase = .ok c) : r.id = .text c.id := by
  obtain ⟨t, ht, hc⟩ := Row.toTestCase_eq_ok_iff.mp h
  rw [Row.texts_eq_ok_iff.mp ht, (RowTexts.toTestCase_eq_ok_iff.mp hc).1]

theorem Row.status_of_toTestCase (h : r.toTestCase = .ok c) :
    ∃ s, r.status = .text s ∧ Status.ofCell? s = some c.status := by
  obtain ⟨t, ht, hc⟩ := Row.toTestCase_eq_ok_iff.mp h
  exact ⟨t.status, by rw [Row.texts_eq_ok_iff.mp ht], (RowTexts.toTestCase_eq_ok_iff.mp hc).2.2.1⟩

/-- The rows are read exactly when each of them is, whatever is read of them first. -/
theorem casesOf_eq_ok_iff :
    casesOf rows = .ok cs ↔ List.Forall₂ (fun r c => Row.toTestCase r = .ok c) rows cs := by
  simp only [casesOf, bind_eq_ok_iff, mapM_eq_ok_iff]
  induction rows generalizing cs with
  | nil => simp
  | cons r rows ih =>
    cases cs with
    | nil => simp
    | cons c cs =>
      rw [List.forall₂_cons, ← ih, Row.toTestCase_eq_ok_iff]
      constructor
      · rintro ⟨_ | ⟨t, ts⟩, htexts, hcases⟩
        · simp at htexts
        · obtain ⟨ht, hts⟩ := List.forall₂_cons.mp htexts
          obtain ⟨hc, hcs⟩ := List.forall₂_cons.mp hcases
          exact ⟨⟨t, ht, hc⟩, ts, hts, hcs⟩
      · rintro ⟨⟨t, ht, hc⟩, ts, hts, hcs⟩
        exact ⟨t :: ts, .cons ht hts, .cons hc hcs⟩

/-- No two rows share an id. Any number of rows may have none. -/
def HasUniqueIds (rows : List Row) : Prop := rows.Pairwise fun a b => a.id = b.id → a.id = .null

instance (rows : List Row) : Decidable (HasUniqueIds rows) :=
  inferInstanceAs (Decidable (rows.Pairwise fun a b => a.id = b.id → a.id = .null))

theorem findRow_eq_some_iff {id : String} (h : HasUniqueIds rows) :
    findRow id rows = some r ↔ r ∈ rows ∧ r.id = .text id := by
  rw [findRow]
  constructor
  · intro hfind
    exact ⟨List.mem_of_find?_eq_some hfind, by simpa using List.find?_some hfind⟩
  · rintro ⟨hmem, hid⟩
    induction rows with
    | nil => simp at hmem
    | cons a rows ih =>
      obtain ⟨ha, hrows⟩ := List.pairwise_cons.mp h
      rcases List.mem_cons.mp hmem with rfl | hmem
      · simp [hid]
      · have hne : a.id ≠ .text id := by
          intro he
          exact absurd (he.symm.trans (ha r hmem (he.trans hid.symm))) (by simp)
        rw [List.find?_cons_of_neg (by simpa using hne)]
        exact ih hrows hmem

end CaseRouting.Table
