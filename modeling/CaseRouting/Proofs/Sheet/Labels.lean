import CaseRouting.Proofs.Text.Trimming
import CaseRouting.Sheet.Gateway
import Mathlib.Tactic

/-!
# Labels in one cell

The labels that a cell can hold are those without blanks at their ends and without the separator,
and not empty. Exactly the lists of such labels come back from the cell they are written to.
-/

namespace CaseRouting.Sheet

open Text (IsTrimmed)

structure IsFitLabel (label : String) : Prop where
  isTrimmed : IsTrimmed label
  ne_empty : label ≠ ""
  not_mem : labelSeparator ∉ label.toList

theorem not_mem_of_mem_splitOn {mark : Char} {cs part : List Char} (h : part ∈ cs.splitOn mark) :
    mark ∉ part := by
  induction cs generalizing part with
  | nil =>
    rw [List.splitOn_nil, List.mem_singleton] at h
    simp [h]
  | cons c cs ih =>
    rw [List.splitOn_cons_eq_if_modifyHead] at h
    split at h
    · rcases List.mem_cons.mp h with rfl | h
      · exact List.not_mem_nil
      · exact ih h
    · next hc =>
      obtain ⟨first, parts, hs⟩ := List.exists_cons_of_ne_nil (List.splitOn_ne_nil mark cs)
      rw [hs] at ih
      rw [hs, List.modifyHead_cons, List.mem_cons] at h
      rcases h with rfl | h
      · have hfirst : mark ∉ first := ih List.mem_cons_self
        have hne : mark ≠ c := fun heq => hc (beq_iff_eq.mpr heq.symm)
        simp [hne, hfirst]
      · exact ih (List.mem_cons_of_mem _ h)

theorem isFitLabel_of_mem_labelsOfCell {cell label : String} (h : label ∈ labelsOfCell cell) :
    IsFitLabel label := by
  simp only [labelsOfCell, List.mem_map, List.mem_filter, decide_eq_true_eq] at h
  obtain ⟨cs, ⟨⟨part, hpart, rfl⟩, hne⟩, rfl⟩ := h
  refine ⟨?_, ?_, ?_⟩
  · rw [IsTrimmed, ← String.toList_inj]
    simp
  · simpa [← String.toList_inj] using hne
  · intro hmem
    rw [String.toList_ofList] at hmem
    exact not_mem_of_mem_splitOn hpart (Text.mem_of_mem_trimChars hmem)

theorem toList_cellOfLabels (labels : List String) :
    (cellOfLabels labels).toList = [labelSeparator].intercalate (labels.map String.toList) := by
  rw [cellOfLabels, String.toList_intercalate]
  rfl

theorem labelsOfCell_cellOfLabels {labels : List String} (h : ∀ l ∈ labels, IsFitLabel l) :
    labelsOfCell (cellOfLabels labels) = labels := by
  rcases labels.eq_nil_or_concat with rfl | hne
  · rfl
  · have hsplit : (cellOfLabels labels).toList.splitOn labelSeparator =
        labels.map String.toList := by
      rw [toList_cellOfLabels, List.splitOn_intercalate]
      · intro cs hcs
        obtain ⟨l, hl, rfl⟩ := List.mem_map.mp hcs
        exact (h l hl).not_mem
      · rcases hne with ⟨init, last, rfl⟩
        simp
    have hmap : (labels.map String.toList).map Text.trimChars = labels.map String.toList := by
      rw [List.map_map]
      apply List.map_congr_left
      intro l hl
      rw [Function.comp_apply, ← Text.toList_trim, (h l hl).isTrimmed]
    have hfilter : (labels.map String.toList).filter (· ≠ []) = labels.map String.toList := by
      rw [List.filter_eq_self]
      intro cs hcs
      obtain ⟨l, hl, rfl⟩ := List.mem_map.mp hcs
      simpa using (h l hl).ne_empty
    rw [labelsOfCell, hsplit, hmap, hfilter, List.map_map]
    simp

/-- The separator is no blank, so blanks at the ends of the cell could only come from a label. -/
theorem isTrimmed_cellOfLabels {labels : List String} (h : ∀ l ∈ labels, IsTrimmed l) :
    IsTrimmed (cellOfLabels labels) := by
  have hsep : Text.isBlank labelSeparator = false := by decide
  rw [Text.isTrimmed_iff, toList_cellOfLabels]
  induction labels with
  | nil => simp
  | cons l ls ih =>
    obtain ⟨hhead, hlast⟩ := Text.isTrimmed_iff.mp (h l (by simp))
    cases ls with
    | nil => simpa using ⟨hhead, hlast⟩
    | cons m ls =>
      obtain ⟨_, ihlast⟩ := ih (fun x hx => h x (List.mem_cons_of_mem _ hx))
      rw [List.map_cons] at ihlast
      rw [List.map_cons, List.map_cons, List.intercalate_cons_cons]
      constructor
      · intro c hc
        rw [List.append_assoc, List.head?_append] at hc
        cases hl : l.toList.head? with
        | some d => exact hhead c (by simpa [hl] using hc)
        | none =>
          have : c = labelSeparator := by simpa [hl, eq_comm] using hc
          rw [this, hsep]
      · intro c hc
        rw [List.getLast?_append] at hc
        cases hr : ([labelSeparator].intercalate (m.toList :: ls.map String.toList)).getLast? with
        | some d => exact ihlast c (by simpa [hr] using hc)
        | none =>
          have : c = labelSeparator := by simpa [hr, eq_comm] using hc
          rw [this, hsep]

/-- Exactly the lists of labels that a cell can hold come back from their cell. -/
theorem labelsOfCell_trim_cellOfLabels_iff {labels : List String} :
    labelsOfCell (Text.trim (cellOfLabels labels)) = labels ↔ ∀ l ∈ labels, IsFitLabel l := by
  constructor
  · intro h l hl
    rw [← h] at hl
    exact isFitLabel_of_mem_labelsOfCell hl
  · intro h
    rw [isTrimmed_cellOfLabels fun l hl => (h l hl).isTrimmed, labelsOfCell_cellOfLabels h]

theorem isUnfitLabel_eq_false_iff {label : String} :
    isUnfitLabel label = false ↔ labelSeparator ∉ label.toList ∧ IsTrimmed label := by
  simp [isUnfitLabel, IsTrimmed]

/-- A label that a cell can hold is one that passes the check for the sheet and is not blank. -/
theorem isFitLabel_iff_passes {label : String} :
    IsFitLabel label ↔
      (labelSeparator ∉ label.toList ∧ IsTrimmed label) ∧ Text.isBlankText label = false := by
  constructor
  · intro h
    refine ⟨⟨h.not_mem, h.isTrimmed⟩, eq_false_of_ne_true fun hblank => ?_⟩
    exact h.ne_empty (h.isTrimmed.isBlankText_iff.mp hblank)
  · rintro ⟨⟨hseparator, htrimmed⟩, hblank⟩
    refine ⟨htrimmed, fun hempty => ?_, hseparator⟩
    rw [htrimmed.isBlankText_iff.mpr hempty] at hblank
    exact absurd hblank (by decide)

theorem labelsOfCell_filled (cell : String) :
    ((filled? (some cell)).map labelsOfCell).getD [] = labelsOfCell cell := by
  by_cases hcell : cell = ""
  · rw [hcell]
    decide
  · simp [filled?, Option.filter_some, hcell]

end CaseRouting.Sheet
