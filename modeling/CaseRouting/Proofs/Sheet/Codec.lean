import CaseRouting.Proofs.Sheet.Cell
import CaseRouting.Proofs.Sheet.Labels
import CaseRouting.Proofs.Sheet.Record
import CaseRouting.Proofs.TestCase.Basic

/-!
# Sheets written and read back

Reading a sheet that was written succeeds exactly when every time in it has a year of four digits,
and then gives each test case as its row holds it. A test case that was read once is held by a row
without change.
-/

namespace CaseRouting.Sheet

open Text (IsTrimmed bytesOf)

/-- A test case as its row gives it back. -/
def reread (c : TestCase) : TestCase where
  id := Text.trim c.id
  title := Text.trim c.title
  status := c.status
  priority := (c.priority.map Text.trim).filter fun p => !Text.isBlankText p
  labels := labelsOfCell (Text.trim (cellOfLabels c.labels))
  updatedAt := c.updatedAt

theorem labels_reread (c : TestCase) :
    (reread c).labels = labelsOfCell (Text.trim (cellOfLabels c.labels)) := by
  rw [reread]

/-- A test case whose texts a row can hold. -/
structure IsFit (c : TestCase) : Prop where
  id : IsTrimmed c.id
  title : IsTrimmed c.title
  priority : ∀ p ∈ c.priority, IsTrimmed p ∧ p ≠ ""
  labels : ∀ l ∈ c.labels, IsFitLabel l

theorem filter_priority_eq_self_iff {priority : Option String} :
    ((priority.map Text.trim).filter fun p => !Text.isBlankText p) = priority ↔
      ∀ p ∈ priority, IsTrimmed p ∧ p ≠ "" := by
  cases priority with
  | none => simp
  | some p =>
    have hblank := (Text.isTrimmed_trim p).isBlankText_iff
    by_cases hp : Text.trim p = ""
    · have hne : ¬(Text.trim p = p ∧ p ≠ "") := fun h => h.2 (h.1.symm.trans hp)
      simpa [Option.filter_some, hblank.mpr hp, IsTrimmed] using hne
    · have hne : Text.isBlankText (Text.trim p) = false :=
        eq_false_of_ne_true fun h => hp (hblank.mp h)
      simp only [Option.map_some, Option.filter_some, hne, Bool.not_false, if_true,
        Option.some.injEq, Option.mem_some_iff, forall_eq', IsTrimmed]
      exact ⟨fun h => ⟨h, fun he => hp (h.trans he)⟩, fun h => h.1⟩

/-- The test cases that a row can hold are those it gives back. -/
theorem reread_eq_self_iff {c : TestCase} : reread c = c ↔ IsFit c := by
  have hfields : reread c = c ↔ IsTrimmed c.id ∧ IsTrimmed c.title ∧
      (∀ p ∈ c.priority, IsTrimmed p ∧ p ≠ "") ∧ ∀ l ∈ c.labels, IsFitLabel l := by
    rw [← filter_priority_eq_self_iff, ← labelsOfCell_trim_cellOfLabels_iff]
    cases c
    simp [reread, IsTrimmed]
  rw [hfields]
  constructor
  · rintro ⟨hid, htitle, hpriority, hlabels⟩
    exact ⟨hid, htitle, hpriority, hlabels⟩
  · intro h
    exact ⟨h.id, h.title, h.priority, h.labels⟩

instance (c : TestCase) : Decidable (IsFit c) := decidable_of_iff _ reread_eq_self_iff

def rowOf (c : TestCase) : Row where
  id := Text.trim c.id
  title := Text.trim c.title
  status := c.status.name
  priority := filled? (some (Text.trim (c.priority.getD "")))
  labels := filled? (some (Text.trim (cellOfLabels c.labels)))
  updatedAt := c.updatedAt.map Instant.stored

theorem filled?_stored (updatedAt : Option Instant) :
    filled? (some (Text.trim ((updatedAt.map Instant.stored).getD ""))) =
      updatedAt.map Instant.stored := by
  cases updatedAt with
  | none => decide
  | some t =>
    rw [Option.map_some, Option.getD_some, t.isTrimmed_stored]
    simp [filled?, Option.filter_some, t.stored_ne_empty]

theorem row_cellsOf (c : TestCase) :
    (Header.names columns).row ((cellsOf c).map Text.trim) = .ok (rowOf c) := by
  rw [rowOf, ← filled?_stored, ← Status.trim_name]
  rfl

theorem instant_rowOf_eq_ok_iff {c : TestCase} {u : Option Instant} :
    (rowOf c).instant = .ok u ↔ c.HasStorableTime ∧ u = c.updatedAt := by
  rw [Row.instant, rowOf, TestCase.HasStorableTime]
  cases c.updatedAt with
  | none => simp [eq_comm]
  | some t =>
    have hblank : Text.isBlankText t.stored = false :=
      eq_false_of_ne_true fun h => t.stored_ne_empty (t.isTrimmed_stored.isBlankText_iff.mp h)
    simp only [Option.map_some, hblank, Bool.false_eq_true, if_false,
      show Text.trim t.stored = t.stored from t.isTrimmed_stored, Option.mem_some_iff,
      forall_eq']
    by_cases hyear : t.HasFourDigitYear
    · simp [Instant.ofRfc3339_stored hyear, hyear, eq_comm]
    · obtain ⟨e, he⟩ := Instant.exists_ofRfc3339_stored_eq_error hyear
      simp [he, hyear]

theorem priority_rowOf (c : TestCase) :
    ((rowOf c).priority.filter fun p => !Text.isBlankText p) =
      (c.priority.map Text.trim).filter fun p => !Text.isBlankText p := by
  rw [rowOf]
  dsimp only
  cases c.priority with
  | none => decide
  | some p =>
    by_cases hp : Text.trim p = ""
    · rw [Option.map_some, Option.getD_some, hp]
      decide
    · simp [filled?, Option.filter_some, hp]

theorem labels_rowOf (c : TestCase) :
    ((rowOf c).labels.map labelsOfCell).getD [] =
      labelsOfCell (Text.trim (cellOfLabels c.labels)) :=
  labelsOfCell_filled _

theorem toTestCase_rowOf_eq_ok_iff {c d : TestCase} :
    (rowOf c).toTestCase = .ok d ↔ c.HasStorableTime ∧ d = reread c := by
  have hid : (rowOf c).id = Text.trim c.id := rfl
  have htitle : (rowOf c).title = Text.trim c.title := rfl
  have hstatus : Status.ofCell? (rowOf c).status = some c.status := Status.ofCell?_name c.status
  rw [reread]
  simp only [Row.toTestCase, hid, htitle, hstatus, bind_eq_ok_iff, instant_rowOf_eq_ok_iff,
    priority_rowOf, labels_rowOf, pure_eq_ok, Except.ok.injEq]
  constructor
  · rintro ⟨u, ⟨htime, hu⟩, hd⟩
    rw [hu] at hd
    exact ⟨htime, hd.symm⟩
  · rintro ⟨htime, hd⟩
    exact ⟨c.updatedAt, ⟨htime, rfl⟩, hd.symm⟩

theorem Header.testCase_eq_ok_iff {header : Header} {width : ℕ} {record : Record} {c : TestCase} :
    header.testCase width record = .ok c ↔
      record.cells.length = width ∧ ∃ texts row,
        cellTexts record.position 0 record.cells = .ok texts ∧ header.row texts = .ok row ∧
          row.toTestCase = .ok c := by
  rw [Header.testCase]
  by_cases hwidth : record.cells.length = width
  · cases htexts : cellTexts record.position 0 record.cells with
    | error e => simp [hwidth]
    | ok texts =>
      cases hrow : header.row texts with
      | error fault => simp [hwidth, hrow]
      | ok row => simp [hwidth, hrow]
  · simp [hwidth]

theorem testCase_cellsOf_eq_ok_iff {record : Record} {c d : TestCase}
    (h : record.cells = (cellsOf c).map bytesOf) :
    (Header.names columns).testCase columns.length record = .ok d ↔
      c.HasStorableTime ∧ d = reread c := by
  rw [Header.testCase_eq_ok_iff, h, cellTexts_map_bytesOf]
  constructor
  · rintro ⟨_, texts, row, htexts, hrow, hd⟩
    rw [← Except.ok.inj htexts, row_cellsOf] at hrow
    rw [← Except.ok.inj hrow] at hd
    exact toTestCase_rowOf_eq_ok_iff.mp hd
  · intro hd
    exact ⟨rfl, _, _, rfl, row_cellsOf c, toTestCase_rowOf_eq_ok_iff.mpr hd⟩

theorem forall₂_testCase_cellsOf_iff {rest : List Record} {cs ds : List TestCase}
    (h : rest.map Record.cells = cs.map fun c => (cellsOf c).map bytesOf) :
    List.Forall₂ (fun r d => (Header.names columns).testCase columns.length r = .ok d) rest ds ↔
      (∀ c ∈ cs, c.HasStorableTime) ∧ ds = cs.map reread := by
  induction cs generalizing rest ds with
  | nil =>
    have hrest : rest = [] := by simpa using h
    subst hrest
    simp
  | cons c cs ih =>
    cases rest with
    | nil => simp at h
    | cons r rest =>
      obtain ⟨hr, hrest⟩ := List.cons.inj h
      cases ds with
      | nil => simp
      | cons d ds =>
        rw [List.forall₂_cons, testCase_cellsOf_eq_ok_iff hr, ih hrest]
        simp only [List.forall_mem_cons, List.map_cons, List.cons.injEq]
        tauto

theorem headerOf_columns {record : Record} (h : record.cells = columns.map bytesOf) :
    headerOf record = .names columns := by
  have htrim : columns.map Text.trim = columns := by decide
  rw [headerOf, h, cellTexts_map_bytesOf, htrim]

theorem encode_eq_flatMap {cs : List TestCase} (h : cs ≠ []) :
    encode cs = (columns.map bytesOf :: cs.map fun c => (cellsOf c).map bytesOf).flatMap
      writeRecord := by
  have hempty : ¬cs.isEmpty = true := by simpa [List.isEmpty_iff] using h
  rw [encode, if_neg hempty, List.flatMap_cons, List.flatMap_map]
  rfl

theorem map_cells_records_encode {cs : List TestCase} (h : cs ≠ []) :
    (records (encode cs)).map Record.cells =
      columns.map bytesOf :: cs.map fun c => (cellsOf c).map bytesOf := by
  rw [encode_eq_flatMap h]
  apply records_flatMap_writeRecord
  · intro cells hcells
    rcases List.mem_cons.mp hcells with rfl | hcells
    · decide
    · obtain ⟨c, _, rfl⟩ := List.mem_map.mp hcells
      simp [cellsOf]
  · rfl

/-- A written sheet is read exactly when its times can be stored, and then case by case. -/
theorem decode_encode_eq_ok_iff {cs ds : List TestCase} :
    decode (encode cs) = .ok ds ↔ (∀ c ∈ cs, c.HasStorableTime) ∧ ds = cs.map reread := by
  by_cases h : cs = []
  · subst h
    simp [encode, decode, records, readRecords, byteOrderMark, eq_comm]
  · have hcells := map_cells_records_encode h
    cases hrecords : records (encode cs) with
    | nil => simp [hrecords] at hcells
    | cons first rest =>
      rw [hrecords, List.map_cons] at hcells
      obtain ⟨hfirst, hrest⟩ := List.cons.inj hcells
      have hwidth : first.cells.length = columns.length := by rw [hfirst, List.length_map]
      simp only [decode, hrecords, headerOf_columns hfirst, hwidth]
      rw [mapM_eq_ok_iff, forall₂_testCase_cellsOf_iff hrest]

theorem mem_of_filled? {cell : Option String} {s : String} (h : filled? cell = some s) :
    cell = some s :=
  Option.eq_some_of_filter_eq_some h

theorem requiredCell_eq_ok_iff {name s : String} {cell : Option String} :
    requiredCell name cell = .ok s ↔ cell = some s := by
  cases cell <;> simp [requiredCell]

/-- The texts of a row that are kept as they are come from its cells. -/
theorem Header.mem_of_row {header : Header} {texts : List String} {row : Row}
    (h : header.row texts = .ok row) :
    row.id ∈ texts ∧ row.title ∈ texts ∧ ∀ p ∈ row.priority, p ∈ texts := by
  cases header with
  | names names =>
    have hcell {name s : String}
        (hs : (((names.zip texts).find? (·.1 == name)).map (·.2)) = some s) : s ∈ texts := by
      obtain ⟨entry, hentry, rfl⟩ := Option.map_eq_some_iff.mp hs
      exact (List.of_mem_zip (List.mem_of_find?_eq_some hentry)).2
    change Row.ofNamed names texts = .ok row at h
    rw [Row.ofNamed] at h
    cases hrepeated : repeatedColumn [] names with
    | some name => simp [hrepeated] at h
    | none =>
      simp only [hrepeated, bind_eq_ok_iff, requiredCell_eq_ok_iff, pure_eq_ok,
        Except.ok.injEq] at h
      obtain ⟨id, hid, title, htitle, status, _, rfl⟩ := h
      exact ⟨hcell hid, hcell htitle, fun p hp => hcell (mem_of_filled? hp)⟩
  | placed =>
    change Row.ofPlaced texts = .ok row at h
    match texts, h with
    | id :: title :: status :: rest, h =>
      rw [← Except.ok.inj h]
      refine ⟨by simp, by simp, fun p hp => ?_⟩
      have hmem : p ∈ rest := List.mem_of_getElem? (mem_of_filled? hp)
      simp [hmem]

theorem isFit_of_toTestCase {row : Row} {c : TestCase} (hid : IsTrimmed row.id)
    (htitle : IsTrimmed row.title) (hpriority : ∀ p ∈ row.priority, IsTrimmed p)
    (h : row.toTestCase = .ok c) : IsFit c := by
  rw [Row.toTestCase] at h
  cases hstatus : Status.ofCell? row.status with
  | none => simp [hstatus] at h
  | some status =>
    simp only [hstatus, bind_eq_ok_iff, pure_eq_ok, Except.ok.injEq] at h
    obtain ⟨updatedAt, _, rfl⟩ := h
    refine ⟨hid, htitle, ?_, ?_⟩
    · intro p hp
      have hblank : Text.isBlankText p = false := by
        simpa using (Option.filter_eq_some_iff.mp hp).2
      have hp' := hpriority p (Option.eq_some_of_filter_eq_some hp)
      refine ⟨hp', fun he => ?_⟩
      rw [hp'.isBlankText_iff.mpr he] at hblank
      exact absurd hblank (by decide)
    · intro l hl
      cases hlabels : row.labels with
      | none => simp [hlabels] at hl
      | some cell =>
        rw [hlabels, Option.map_some, Option.getD_some] at hl
        exact isFitLabel_of_mem_labelsOfCell hl

theorem isFit_of_decode {bytes : Bytes} {cs : List TestCase} (h : decode bytes = .ok cs) :
    ∀ c ∈ cs, IsFit c := by
  rw [decode] at h
  cases hrecords : records bytes with
  | nil =>
    rw [hrecords] at h
    rw [← Except.ok.inj h]
    simp
  | cons first rest =>
    rw [hrecords] at h
    have hrows := mapM_eq_ok_iff.mp h
    intro c hc
    obtain ⟨record, _, hrecord⟩ := exists_of_forall₂_of_mem hrows hc
    obtain ⟨_, texts, row, htexts, hrow, hcase⟩ := Header.testCase_eq_ok_iff.mp hrecord
    have htrimmed (s : String) (hs : s ∈ texts) : IsTrimmed s := by
      obtain ⟨cell, _, hcell⟩ := exists_of_forall₂_of_mem (cellTexts_eq_ok_iff.mp htexts) hs
      exact isTrimmed_of_cellText hcell
    obtain ⟨hid, htitle, hpriority⟩ := Header.mem_of_row hrow
    exact isFit_of_toTestCase (htrimmed _ hid) (htrimmed _ htitle)
      (fun p hp => htrimmed p (hpriority p hp)) hcase

end CaseRouting.Sheet
