import CaseRouting.Table.Gateway
import Mathlib.Data.String.Basic
import Mathlib.Tactic

/-!
# The order of rows

Ids are ordered totally, by their bytes, and rows are sorted by id without a change of their order
otherwise. To sort the rows that are selected is therefore to select from the sorted rows.
-/

namespace CaseRouting

section Sorting

variable {α : Type} {le : α → α → Bool} {p : α → Bool}

/-- A new element stands behind those it is not below and before the others. -/
theorem exists_mergeSort_cons (trans : ∀ a b c, le a b → le b c → le a c)
    (total : ∀ a b, le a b || le b a) (a : α) (l : List α) :
    ∃ l₁ l₂, (a :: l).mergeSort le = l₁ ++ a :: l₂ ∧ l.mergeSort le = l₁ ++ l₂ ∧
      (∀ b ∈ l₁, le a b = false) ∧ ∀ b ∈ l₂, le a b = true := by
  obtain ⟨l₁, l₂, hcons, hl, hbefore⟩ := List.mergeSort_cons trans total a l
  have hsorted := List.pairwise_mergeSort trans total (a :: l)
  rw [hcons, List.pairwise_append, List.pairwise_cons] at hsorted
  exact ⟨l₁, l₂, hcons, hl, fun b hb => by simpa using hbefore b hb, hsorted.2.1.1⟩

/-- A list is divided in one way only into those that an element is not below, and the others. -/
theorem eq_of_append_eq_append {a : α} {l₁ l₂ m₁ m₂ : List α} (h : l₁ ++ l₂ = m₁ ++ m₂)
    (hl₁ : ∀ b ∈ l₁, le a b = false) (hl₂ : ∀ b ∈ l₂, le a b = true)
    (hm₁ : ∀ b ∈ m₁, le a b = false) (hm₂ : ∀ b ∈ m₂, le a b = true) : l₁ = m₁ ∧ l₂ = m₂ := by
  have hfirst {k₁ k₂ : List α} (hk₁ : ∀ b ∈ k₁, le a b = false) (hk₂ : ∀ b ∈ k₂, le a b = true) :
      (k₁ ++ k₂).takeWhile (fun b => !le a b) = k₁ := by
    rw [List.takeWhile_append_of_pos fun b hb => by simp [hk₁ b hb]]
    cases k₂ with
    | nil => simp
    | cons b k₂ => simp [hk₂ b List.mem_cons_self]
  have hsame : l₁ = m₁ := by rw [← hfirst hl₁ hl₂, h, hfirst hm₁ hm₂]
  rw [hsame, List.append_cancel_left_eq] at h
  exact ⟨hsame, h⟩

theorem mergeSort_filter (trans : ∀ a b c, le a b → le b c → le a c)
    (total : ∀ a b, le a b || le b a) (l : List α) :
    (l.filter p).mergeSort le = (l.mergeSort le).filter p := by
  induction l with
  | nil => simp
  | cons a l ih =>
    obtain ⟨l₁, l₂, hcons, hl, hl₁, hl₂⟩ := exists_mergeSort_cons trans total a l
    rw [hl, List.filter_append] at ih
    by_cases hp : p a = true
    · obtain ⟨m₁, m₂, hcons', hm, hm₁, hm₂⟩ := exists_mergeSort_cons trans total a (l.filter p)
      obtain ⟨rfl, rfl⟩ := eq_of_append_eq_append (hm.symm.trans ih) hm₁ hm₂
        (fun b hb => hl₁ b (List.mem_of_mem_filter hb))
        (fun b hb => hl₂ b (List.mem_of_mem_filter hb))
      rw [List.filter_cons_of_pos hp, hcons', hcons, List.filter_append, List.filter_cons_of_pos hp]
    · rw [List.filter_cons_of_neg hp, ih, hcons, List.filter_append, List.filter_cons_of_neg hp]

end Sorting

namespace Table

open Text (bytesOf encodeUtf8)

theorem bytesLe_trans {a b c : Bytes} (hab : bytesLe a b) (hbc : bytesLe b c) : bytesLe a c := by
  induction a generalizing b c with
  | nil => rfl
  | cons x as ih =>
    rcases b with _ | ⟨y, bs⟩
    · exact absurd hab (by simp [bytesLe])
    rcases c with _ | ⟨z, cs⟩
    · exact absurd hbc (by simp [bytesLe])
    simp only [bytesLe, Bool.or_eq_true, decide_eq_true_eq, Bool.and_eq_true, beq_iff_eq] at *
    rcases hab with hxy | ⟨rfl, has⟩
    · rcases hbc with hyz | ⟨rfl, _⟩
      · exact .inl (UInt8.lt_trans hxy hyz)
      · exact .inl hxy
    · rcases hbc with hyz | ⟨rfl, hbs⟩
      · exact .inl hyz
      · exact .inr ⟨rfl, ih has hbs⟩

theorem bytesLe_total (a b : Bytes) : bytesLe a b || bytesLe b a := by
  induction a generalizing b with
  | nil => rfl
  | cons x as ih =>
    cases b with
    | nil => rfl
    | cons y bs =>
      have htail := ih bs
      simp only [bytesLe, Bool.or_eq_true, decide_eq_true_eq, Bool.and_eq_true, beq_iff_eq] at *
      by_cases hxy : x = y
      · subst hxy
        exact htail.imp (fun h => .inr ⟨rfl, h⟩) fun h => .inr ⟨rfl, h⟩
      · exact (UInt8.lt_or_lt_of_ne hxy).imp .inl .inl

theorem Cell.le_trans (a b c : Cell) (hab : a.le b) (hbc : b.le c) : a.le c := by
  cases a <;> cases b <;> cases c <;> simp_all [Cell.le]
  · exact String.le_trans hab hbc
  · exact bytesLe_trans hab hbc

theorem Cell.le_total (a b : Cell) : a.le b || b.le a := by
  cases a <;> cases b <;> simp [Cell.le, String.le_total]
  simpa using bytesLe_total _ _

theorem bytesLe_cons_ofNat {m n : ℕ} (hm : m < 256) (hn : n < 256) {x y : Bytes} :
    bytesLe (UInt8.ofNat m :: x) (UInt8.ofNat n :: y) = true ↔
      m < n ∨ m = n ∧ bytesLe x y = true := by
  have hm' : (UInt8.ofNat m).toNat = m := UInt8.toNat_ofNat_of_lt' hm
  have hn' : (UInt8.ofNat n).toNat = n := UInt8.toNat_ofNat_of_lt' hn
  simp only [bytesLe, Bool.or_eq_true, decide_eq_true_eq, Bool.and_eq_true, beq_iff_eq,
    UInt8.lt_iff_toNat_lt, ← UInt8.toNat_inj, hm', hn']

theorem bytesLe_append_left (p x y : Bytes) : bytesLe (p ++ x) (p ++ y) = bytesLe x y := by
  induction p with
  | nil => rfl
  | cons b p ih =>
    have hb : ¬b < b := UInt8.lt_irrefl b
    simp [bytesLe, hb, ih]

/-- The bytes of two characters differ before either ends, and first in the direction in which the
characters do. -/
theorem bytesLe_utf8EncodeChar_append {c d : Char} (h : c ≠ d) (x y : Bytes) :
    bytesLe (String.utf8EncodeChar c ++ x) (String.utf8EncodeChar d ++ y) = true ↔ c < d := by
  have hne : c.val.toNat ≠ d.val.toNat := fun he => h (Char.toNat_inj.mp he)
  have hlt : c < d ↔ c.val.toNat < d.val.toNat := Iff.rfl
  have hbound (e : Char) : e.val.toNat < 0x110000 := by
    rcases e.valid with hv | hv
    · exact hv.trans (by decide)
    · exact hv.2
  have hc := hbound c
  have hd := hbound d
  rw [hlt]
  unfold String.utf8EncodeChar
  generalize c.val.toNat = m at *
  generalize d.val.toNat = n at *
  -- How the digits of a number to the base 64 hang together, for the arithmetic below.
  have hm₁ : m / 4096 = m / 64 / 64 := by omega
  have hm₂ : m / 262144 = m / 4096 / 64 := by omega
  have hm₃ : m / 262144 % 8 = m / 262144 := by omega
  have hn₁ : n / 4096 = n / 64 / 64 := by omega
  have hn₂ : n / 262144 = n / 4096 / 64 := by omega
  have hn₃ : n / 262144 % 8 = n / 262144 := by omega
  simp only
  split_ifs <;>
    simp (disch := omega) only [List.cons_append, List.nil_append, bytesLe_cons_ofNat] <;> omega

theorem bytesLe_encodeUtf8_iff {as bs : List Char} :
    bytesLe (encodeUtf8 as) (encodeUtf8 bs) = true ↔ ¬List.Lex (· < ·) bs as := by
  induction as generalizing bs with
  | nil =>
    have hnil : bytesLe (encodeUtf8 []) (encodeUtf8 bs) = true := rfl
    simp [hnil]
  | cons a as ih =>
    have hcons (c : Char) (cs : List Char) :
        encodeUtf8 (c :: cs) = String.utf8EncodeChar c ++ encodeUtf8 cs := List.flatMap_cons
    cases bs with
    | nil =>
      have hlex : List.Lex (· < ·) [] (a :: as) := .nil
      obtain ⟨b, tail, hbytes⟩ :=
        List.exists_cons_of_ne_nil (String.utf8EncodeChar_ne_nil (c := a))
      have hle : bytesLe (encodeUtf8 (a :: as)) (encodeUtf8 []) = false := by
        rw [hcons, hbytes]
        rfl
      simp [hlex, hle]
    | cons b bs =>
      rw [hcons, hcons]
      by_cases hab : a = b
      · subst hab
        rw [bytesLe_append_left, ih, List.lex_cons_iff]
      · rw [bytesLe_utf8EncodeChar_append hab]
        constructor
        · rintro hlt (h | h)
          · exact absurd hlt (lt_asymm h)
          · exact hab rfl
        · intro h
          exact (lt_or_gt_of_ne hab).resolve_right fun hlt => h (.rel hlt)

theorem bytesLe_bytesOf_iff {a b : String} : bytesLe (bytesOf a) (bytesOf b) = true ↔ a ≤ b := by
  have hlex : a ≤ b ↔ ¬List.Lex (· < ·) b.toList a.toList := by
    rw [← String.not_lt]
    rfl
  rw [hlex]
  exact bytesLe_encodeUtf8_iff

/-- Selecting rows and ordering them can be done in either order. -/
theorem inOrder_filter (p : Row → Bool) (rows : List Row) :
    inOrder (rows.filter p) = (inOrder rows).filter p :=
  mergeSort_filter (fun a b c => Cell.le_trans a.id b.id c.id)
    (fun a b => Cell.le_total a.id b.id) rows

end Table

end CaseRouting
