import CaseRouting.Proofs.Action
import CaseRouting.Proofs.Text.Trimming
import CaseRouting.Proofs.Text.Utf8
import CaseRouting.Sheet.Row

/-!
# Cells of a sheet

A cell is trimmed twice, as bytes and as text. The first pass only takes off bytes of blanks, so a
text that was written to a cell is read back trimmed, and every text that is read is trimmed.
-/

namespace CaseRouting.Sheet

open Text (IsTrimmed bytesOf encodeUtf8)

def isAsciiBlankChar (c : Char) : Bool :=
  c.toNat == 0x20 || c.toNat == 0x09 || c.toNat == 0x0A || c.toNat == 0x0C || c.toNat == 0x0D

theorem isBlank_of_isAsciiBlankChar {c : Char} (h : isAsciiBlankChar c = true) :
    Text.isBlank c = true := by
  simp only [isAsciiBlankChar, Bool.or_eq_true, beq_iff_eq] at h
  rcases h with (((h | h) | h) | h) | h <;> simp [Text.isBlank, h]

theorem isAsciiBlank_eq (b : UInt8) :
    isAsciiBlank b = (b.toNat == 0x20 || b.toNat == 0x09 || b.toNat == 0x0A || b.toNat == 0x0C ||
      b.toNat == 0x0D) := by
  rw [Bool.eq_iff_iff]
  simp only [isAsciiBlank, Bool.or_eq_true, beq_iff_eq, ← UInt8.toNat_inj]
  rfl

theorem isAsciiBlank_of_mem_utf8EncodeChar {c : Char} {b : UInt8}
    (h : b ∈ String.utf8EncodeChar c) : isAsciiBlank b = isAsciiBlankChar c := by
  rw [isAsciiBlank_eq, isAsciiBlankChar]
  rcases Nat.lt_or_ge c.toNat 0x80 with hc | hc
  · rw [Text.utf8EncodeChar_of_lt hc, List.mem_singleton] at h
    rw [h, UInt8.toNat_ofNat_of_lt' (show c.toNat < 256 by omega)]
  · have hb := Text.le_toNat_of_mem_utf8EncodeChar hc h
    rw [Bool.eq_iff_iff]
    simp only [Bool.or_eq_true, beq_iff_eq]
    omega

section

variable {α β : Type} {f : α → List β} {p : β → Bool} {q : α → Bool}

/-- Dropping from a list of nonempty blocks drops whole blocks when each block passes as a whole
or not at all. -/
theorem dropWhile_flatMap (hne : ∀ a, f a ≠ []) (hpq : ∀ a, ∀ b ∈ f a, p b = q a) (l : List α) :
    (l.flatMap f).dropWhile p = (l.dropWhile q).flatMap f := by
  induction l with
  | nil => rfl
  | cons a l ih =>
    rw [List.flatMap_cons]
    by_cases ha : q a = true
    · rw [List.dropWhile_append_of_pos (fun b hb => (hpq a b hb).trans ha), ih,
        List.dropWhile_cons_of_pos ha]
    · obtain ⟨b, bs, hb⟩ := List.exists_cons_of_ne_nil (hne a)
      have hpb : ¬p b = true := by
        rw [hpq a b (by simp [hb])]
        exact ha
      rw [List.dropWhile_cons_of_neg ha, List.flatMap_cons, hb, List.cons_append,
        List.dropWhile_cons_of_neg hpb]

theorem rdropWhile_flatMap (hne : ∀ a, f a ≠ []) (hpq : ∀ a, ∀ b ∈ f a, p b = q a) (l : List α) :
    (l.flatMap f).rdropWhile p = (l.rdropWhile q).flatMap f := by
  have hrev := dropWhile_flatMap (fun a => by simpa using hne a)
    (fun a b hb => hpq a b (List.mem_reverse.mp hb)) l.reverse
  rw [List.rdropWhile, List.reverse_flatMap, Function.comp_def, hrev, List.reverse_flatMap]
  simp [Function.comp_def, List.rdropWhile]

end

theorem trimBytes_encodeUtf8 (cs : List Char) :
    trimBytes (encodeUtf8 cs) =
      encodeUtf8 ((cs.dropWhile isAsciiBlankChar).rdropWhile isAsciiBlankChar) := by
  have hne (c : Char) : String.utf8EncodeChar c ≠ [] := String.utf8EncodeChar_ne_nil
  have hblank (c : Char) (b : UInt8) (hb : b ∈ String.utf8EncodeChar c) :=
    isAsciiBlank_of_mem_utf8EncodeChar hb
  have htrim (cell : Bytes) :
      trimBytes cell = (cell.dropWhile isAsciiBlank).rdropWhile isAsciiBlank := rfl
  rw [htrim, encodeUtf8, dropWhile_flatMap hne hblank, rdropWhile_flatMap hne hblank]
  rfl

/-- A text comes back from its cell trimmed. -/
theorem cellText_bytesOf (s : String) : cellText (bytesOf s) = .ok (Text.trim s) := by
  rw [cellText, bytesOf, trimBytes_encodeUtf8]
  have hdecode := Text.decodeUtf8_bytesOf
    (String.ofList ((s.toList.dropWhile isAsciiBlankChar).rdropWhile isAsciiBlankChar))
  rw [bytesOf, String.toList_ofList] at hdecode
  rw [hdecode]
  have htrim := Text.trimChars_of_trimmed_before (fun _ => isBlank_of_isAsciiBlankChar) s.toList
  simp [Functor.map, Except.map, Text.trim, htrim]

theorem isTrimmed_of_cellText {cell : Bytes} {s : String} (h : cellText cell = .ok s) :
    IsTrimmed s := by
  obtain ⟨text, _, rfl⟩ := map_eq_ok_iff.mp h
  exact Text.isTrimmed_trim text

/-- The texts of a record do not depend on where it stands. -/
theorem cellTexts_eq_ok_iff {position : Position} {column : ℕ} {cells : List Bytes}
    {texts : List String} :
    cellTexts position column cells = .ok texts ↔
      List.Forall₂ (fun cell s => cellText cell = .ok s) cells texts := by
  induction cells generalizing column texts with
  | nil => cases texts <;> simp [cellTexts]
  | cons cell cells ih =>
    rw [cellTexts]
    cases hcell : cellText cell with
    | error index => cases texts <;> simp [hcell]
    | ok s => cases texts <;> simp [map_eq_ok_iff, ih, hcell, and_comm]

theorem cellTexts_map_bytesOf (position : Position) (column : ℕ) (texts : List String) :
    cellTexts position column (texts.map bytesOf) = .ok (texts.map Text.trim) := by
  rw [cellTexts_eq_ok_iff]
  induction texts with
  | nil => exact .nil
  | cons s texts ih => exact .cons (cellText_bytesOf s) ih

end CaseRouting.Sheet
