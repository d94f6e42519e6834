import CaseRouting.Proofs.Sheet.Command

/-!
# Sheets that give back what was saved

Which test cases a sheet gives back as they were saved, told by the characters of their texts:
blanks stand at no end of an id, a title, a priority or a label, and the texts that a cell may leave
out hold more than blanks. Nothing else about a text matters, neither commas nor quotes nor line
breaks.
-/

namespace CaseRouting

namespace Text

structure HasCleanEnds (s : String) : Prop where
  head : ∀ c ∈ s.toList.head?, isBlank c = false
  last : ∀ c ∈ s.toList.getLast?, isBlank c = false

def IsMeaningful (s : String) : Prop := ∃ c ∈ s.toList, isBlank c = false

variable {s : String}

theorem isTrimmed_iff_hasCleanEnds : IsTrimmed s ↔ HasCleanEnds s := by
  rw [isTrimmed_iff]
  exact ⟨fun h => ⟨h.1, h.2⟩, fun h => ⟨h.head, h.last⟩⟩

theorem isMeaningful_iff : IsMeaningful s ↔ isBlankText s = false := by
  simp [IsMeaningful, isBlankText]

theorem isTrimmed_and_ne_empty_iff : IsTrimmed s ∧ s ≠ "" ↔ HasCleanEnds s ∧ IsMeaningful s := by
  rw [isTrimmed_iff_hasCleanEnds]
  refine and_congr_right fun h => ?_
  have hblank := (isTrimmed_iff_hasCleanEnds.mpr h).isBlankText_iff
  rw [isMeaningful_iff, ← Bool.not_eq_true]
  exact not_congr hblank.symm

end Text

namespace Sheet

open Files (memory)
open Text (HasCleanEnds IsMeaningful)

variable {c : TestCase} {cs : List TestCase}

/-- A test case that comes back from a sheet as it was. -/
structure ComesBack (c : TestCase) : Prop where
  id : HasCleanEnds c.id
  title : HasCleanEnds c.title
  priority : ∀ p ∈ c.priority, HasCleanEnds p ∧ IsMeaningful p
  labels : ∀ l ∈ c.labels, HasCleanEnds l ∧ IsMeaningful l ∧ ';' ∉ l.toList
  updatedAt : ∀ t ∈ c.updatedAt, 0 ≤ t.date.year ∧ t.date.year ≤ 9999

theorem isFitLabel_iff {label : String} :
    IsFitLabel label ↔ HasCleanEnds label ∧ IsMeaningful label ∧ ';' ∉ label.toList := by
  rw [← and_assoc, ← Text.isTrimmed_and_ne_empty_iff]
  constructor
  · intro h
    exact ⟨⟨h.isTrimmed, h.ne_empty⟩, h.not_mem⟩
  · rintro ⟨⟨htrimmed, hne⟩, hmem⟩
    exact ⟨htrimmed, hne, hmem⟩

theorem comesBack_iff : ComesBack c ↔ IsFit c ∧ c.HasStorableTime := by
  constructor
  · intro h
    refine ⟨⟨?_, ?_, ?_, ?_⟩, h.updatedAt⟩
    · exact Text.isTrimmed_iff_hasCleanEnds.mpr h.id
    · exact Text.isTrimmed_iff_hasCleanEnds.mpr h.title
    · exact fun p hp => Text.isTrimmed_and_ne_empty_iff.mpr (h.priority p hp)
    · exact fun l hl => isFitLabel_iff.mpr (h.labels l hl)
  · rintro ⟨h, htime⟩
    refine ⟨?_, ?_, ?_, ?_, htime⟩
    · exact Text.isTrimmed_iff_hasCleanEnds.mp h.id
    · exact Text.isTrimmed_iff_hasCleanEnds.mp h.title
    · exact fun p hp => Text.isTrimmed_and_ne_empty_iff.mp (h.priority p hp)
    · exact fun l hl => isFitLabel_iff.mp (h.labels l hl)

theorem eq_map_reread_iff : cs = cs.map reread ↔ ∀ c ∈ cs, IsFit c := by
  induction cs with
  | nil => simp
  | cons c cs ih =>
    rw [List.map_cons, List.cons.injEq, List.forall_mem_cons, ← ih, ← reread_eq_self_iff,
      eq_comm (a := c)]

/-- Test cases can always be saved to a sheet that takes writes, and exactly those that come back
one by one are loaded from it as they were. -/
theorem load_save_eq_ok_iff (file : String) (content : Option Bytes) (writes : ℕ)
    (cs : List TestCase) :
    (save memory file cs ⟨content, none, writes⟩).result = .ok () ∧
      ((load memory file (save memory file cs ⟨content, none, writes⟩).state).result = .ok cs ↔
        ∀ c ∈ cs, ComesBack c) := by
  refine ⟨result_save_eq_ok_iff.mpr rfl, ?_⟩
  rw [state_save rfl, result_load_encode_eq_ok_iff, eq_map_reread_iff, ← forall₂_and]
  refine forall₂_congr fun c _ => ?_
  rw [comesBack_iff, and_comm]

/-- Empty texts, no labels, and marks of the sheet's own in the texts. -/
def markedCases : List TestCase := [
  ⟨"", "", .draft, none, [], none⟩,
  ⟨"a,b", "\"x\"\r\ny\"", .deprecated, some ";", ["\"", ",\n,"], some (.startOfYear 0)⟩]

example : (load memory "cases.csv"
    (save memory "cases.csv" markedCases ⟨none, none, 0⟩).state).result = .ok markedCases := by
  decide +kernel

end Sheet

end CaseRouting
