import CaseRouting.Text.Blank
import Mathlib.Data.List.DropRight

/-!
# Trimmed texts

Trimming gives a text back exactly when no blank stands at either end of it, so trimming twice is
trimming once. Taking off some of the blanks first makes no difference.
-/

namespace CaseRouting.Text

def IsTrimmed (s : String) : Prop := trim s = s

instance (s : String) : Decidable (IsTrimmed s) := inferInstanceAs (Decidable (trim s = s))

theorem trimEnd_eq_rdropWhile (cs : List Char) : trimEnd cs = cs.rdropWhile isBlank := rfl

@[simp] theorem toList_trim (s : String) : (trim s).toList = trimChars s.toList := by
  simp [trim]

theorem trimChars_eq_self_iff {cs : List Char} :
    trimChars cs = cs ↔
      (∀ c ∈ cs.head?, isBlank c = false) ∧ ∀ c ∈ cs.getLast?, isBlank c = false := by
  cases cs with
  | nil => simp [trimChars, trimStart, trimEnd]
  | cons c rest =>
    by_cases hc : isBlank c = true
    · have hlen : (trimChars (c :: rest)).length ≤ rest.length := by
        have hp := (List.rdropWhile_prefix isBlank (trimStart (c :: rest))).length_le
        have hd := List.length_dropWhile_le isBlank rest
        simp only [trimStart, List.dropWhile_cons, hc, if_true] at hp
        simp only [trimChars, trimEnd_eq_rdropWhile, trimStart, List.dropWhile_cons, hc, if_true]
        omega
      have hne : trimChars (c :: rest) ≠ c :: rest := by
        intro h
        rw [h, List.length_cons] at hlen
        omega
      simp [hne, hc]
    · have hs : trimStart (c :: rest) = c :: rest := by simp [trimStart, hc]
      rw [trimChars, hs, trimEnd_eq_rdropWhile, List.rdropWhile_eq_self_iff]
      simp [hc, List.getLast?_eq_some_getLast (List.cons_ne_nil c rest)]

theorem isTrimmed_iff {s : String} :
    IsTrimmed s ↔ (∀ c ∈ s.toList.head?, isBlank c = false) ∧
      ∀ c ∈ s.toList.getLast?, isBlank c = false := by
  rw [← trimChars_eq_self_iff, IsTrimmed, ← String.toList_inj, toList_trim]

theorem head?_trimChars (cs : List Char) : ∀ c ∈ (trimChars cs).head?, isBlank c = false := by
  intro c hc
  obtain ⟨tail, htail⟩ := List.rdropWhile_prefix isBlank (trimStart cs)
  have hhead : (trimStart cs).head? = some c := by
    rw [← htail, List.head?_append, show (List.rdropWhile isBlank (trimStart cs)).head? = some c
      from hc]
    rfl
  have hnot := List.head?_dropWhile_not isBlank cs
  rw [show (cs.dropWhile isBlank).head? = some c from hhead] at hnot
  exact hnot

theorem getLast?_trimChars (cs : List Char) :
    ∀ c ∈ (trimChars cs).getLast?, isBlank c = false := by
  intro c hc
  obtain ⟨hne, rfl⟩ := List.mem_getLast?_eq_getLast hc
  exact eq_false_of_ne_true (List.rdropWhile_last_not isBlank (trimStart cs) hne)

@[simp] theorem trimChars_trimChars (cs : List Char) : trimChars (trimChars cs) = trimChars cs :=
  trimChars_eq_self_iff.mpr ⟨head?_trimChars cs, getLast?_trimChars cs⟩

theorem mem_of_mem_trimChars {c : Char} {cs : List Char} (h : c ∈ trimChars cs) : c ∈ cs :=
  (List.dropWhile_suffix isBlank).subset ((List.rdropWhile_prefix isBlank _).subset h)

theorem isTrimmed_trim (s : String) : IsTrimmed (trim s) := by
  rw [IsTrimmed, ← String.toList_inj]
  simp

theorem trimChars_eq_nil_iff {cs : List Char} : trimChars cs = [] ↔ ∀ c ∈ cs, isBlank c = true := by
  rw [trimChars, trimEnd_eq_rdropWhile, List.rdropWhile_eq_nil_iff, trimStart]
  constructor
  · intro h
    rw [← List.takeWhile_append_dropWhile (p := isBlank) (l := cs)]
    intro c hc
    rcases List.mem_append.mp hc with hc | hc
    · exact List.mem_takeWhile_imp hc
    · exact h c hc
  · intro h c hc
    exact h c ((List.dropWhile_suffix isBlank).subset hc)

theorem trim_eq_empty_iff {s : String} : trim s = "" ↔ isBlankText s = true := by
  rw [← String.toList_inj, toList_trim, String.toList_empty, trimChars_eq_nil_iff, isBlankText,
    List.all_eq_true]

/-- A trimmed text that is not empty holds more than blanks. -/
theorem IsTrimmed.isBlankText_iff {s : String} (h : IsTrimmed s) :
    isBlankText s = true ↔ s = "" := by
  rw [← trim_eq_empty_iff, h]

theorem rdropWhile_cons {α : Type} (p : α → Bool) (a : α) (l : List α) :
    (a :: l).rdropWhile p = if (a :: l).all p then [] else a :: l.rdropWhile p := by
  rw [List.rdropWhile, List.reverse_cons, List.dropWhile_append]
  by_cases hl : ∀ b ∈ l, p b = true
  · have hnil : l.reverse.dropWhile p = [] := by simpa [List.dropWhile_eq_nil_iff] using hl
    have hr : l.rdropWhile p = [] := (List.rdropWhile_eq_nil_iff ..).mpr hl
    by_cases ha : p a = true
    · simpa [hnil, ha] using hl
    · simp [hnil, hr, ha]
  · have hne : ¬(l.reverse.dropWhile p).isEmpty = true := by
      simpa [List.isEmpty_iff, List.dropWhile_eq_nil_iff] using hl
    have hall : ¬(a :: l).all p = true := by
      rw [List.all_cons, Bool.and_eq_true, List.all_eq_true]
      exact fun h => hl h.2
    rw [if_neg hne, if_neg hall]
    simp [List.rdropWhile]

/-- Dropping at the front and dropping less at the back can be done in either order. -/
theorem dropWhile_rdropWhile {α : Type} {p q : α → Bool} (hpq : ∀ a, p a = true → q a = true)
    (l : List α) : (l.rdropWhile p).dropWhile q = (l.dropWhile q).rdropWhile p := by
  induction l with
  | nil => simp
  | cons a l ih =>
    rw [rdropWhile_cons]
    by_cases hall : (a :: l).all p
    · have hq : (a :: l).dropWhile q = [] := by
        rw [List.dropWhile_eq_nil_iff]
        intro b hb
        exact hpq b (List.all_eq_true.mp hall b hb)
      rw [if_pos hall, hq]
      simp
    · rw [if_neg hall]
      by_cases ha : q a = true
      · rw [List.dropWhile_cons_of_pos ha, List.dropWhile_cons_of_pos ha, ih]
      · rw [List.dropWhile_cons_of_neg ha, List.dropWhile_cons_of_neg ha, rdropWhile_cons,
          if_neg hall]

theorem dropWhile_dropWhile {α : Type} {p q : α → Bool} (hpq : ∀ a, p a = true → q a = true)
    (l : List α) : (l.dropWhile p).dropWhile q = l.dropWhile q := by
  induction l with
  | nil => rfl
  | cons a l ih =>
    by_cases hp : p a = true
    · rw [List.dropWhile_cons_of_pos hp, ih, List.dropWhile_cons_of_pos (hpq a hp)]
    · rw [List.dropWhile_cons_of_neg hp]

theorem rdropWhile_rdropWhile {α : Type} {p q : α → Bool} (hpq : ∀ a, p a = true → q a = true)
    (l : List α) : (l.rdropWhile p).rdropWhile q = l.rdropWhile q := by
  simp only [List.rdropWhile, List.reverse_reverse, dropWhile_dropWhile hpq]

/-- Some blanks may be taken off before a text is trimmed. -/
theorem trimChars_of_trimmed_before {p : Char → Bool} (hp : ∀ c, p c = true → isBlank c = true)
    (cs : List Char) : trimChars ((cs.dropWhile p).rdropWhile p) = trimChars cs := by
  simp only [trimChars, trimEnd_eq_rdropWhile, trimStart]
  rw [dropWhile_rdropWhile hp, rdropWhile_rdropWhile hp, dropWhile_dropWhile hp]

end CaseRouting.Text
