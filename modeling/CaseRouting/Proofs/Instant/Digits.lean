import CaseRouting.Instant.Format
import CaseRouting.Instant.Parse
import CaseRouting.Proofs.Action

/-!
# Decimal digits of a fixed width

Padded numbers are the last digits of a number, and the readers of digits give the number back from
them: two digits at a fixed place, and the digits after a decimal point.
-/

namespace CaseRouting

def lastDigits : ℕ → ℕ → List Char
  | 0, _ => []
  | width + 1, n => lastDigits width (n / 10) ++ [Nat.digitChar (n % 10)]

@[simp] theorem length_lastDigits (width n : ℕ) : (lastDigits width n).length = width := by
  induction width generalizing n with
  | zero => rfl
  | succ width ih => simp [lastDigits, ih]

theorem lastDigits_zero (width : ℕ) : lastDigits width 0 = List.replicate width '0' := by
  induction width with
  | zero => rfl
  | succ width ih =>
    rw [lastDigits, Nat.zero_div, ih, List.replicate_succ']
    rfl

theorem toList_padded {width n : ℕ} (hw : 0 < width) (h : n < 10 ^ width) :
    (padded width n).toList = lastDigits width n := by
  induction width generalizing n with
  | zero => simp at hw
  | succ width ih =>
    simp only [padded, String.toList_ofList, lastDigits]
    rcases Nat.lt_or_ge n 10 with hn | hn
    · rw [Nat.toDigits_of_lt_base hn, Nat.div_eq_of_lt hn, lastDigits_zero, Nat.mod_eq_of_lt hn]
      simp
    · have hpow : n / 10 < 10 ^ width := by
        rw [pow_succ] at h
        omega
      have hpos : 0 < width := by
        rcases Nat.eq_zero_or_pos width with rfl | hpos
        · omega
        · exact hpos
      have hih := ih hpos hpow
      simp only [padded, String.toList_ofList] at hih
      rw [Nat.toDigits_of_base_le (by decide) hn, ← hih]
      simp

namespace Instant

open Text (numberOf isDigit_digitChar digitValue_digitChar)

theorem isDigit_of_mem_lastDigits {width n : ℕ} {c : Char} (h : c ∈ lastDigits width n) :
    c.isDigit = true := by
  induction width generalizing n with
  | zero => simp [lastDigits] at h
  | succ width ih =>
    rcases List.mem_append.mp h with h | h
    · exact ih h
    · rw [List.mem_singleton.mp h]
      exact isDigit_digitChar (Nat.mod_lt _ (by decide))

theorem numberOf_lastDigits {width n : ℕ} (h : n < 10 ^ width) :
    numberOf (lastDigits width n) = n := by
  induction width generalizing n with
  | zero =>
    have : n = 0 := by simpa using h
    simp [this, lastDigits, numberOf]
  | succ width ih =>
    have hpow : n / 10 < 10 ^ width := by
      rw [pow_succ] at h
      omega
    rw [lastDigits, Text.numberOf_append_singleton, ih hpow,
      digitValue_digitChar (Nat.mod_lt _ (by decide))]
    omega

theorem digit_digitChar {d : ℕ} (h : d < 10) (rest : List Char) :
    digit (d.digitChar :: rest) = .ok (d, rest) := by
  rw [digit, if_pos (isDigit_digitChar h), digitValue_digitChar h]

theorem twoDigits_lastDigits (n : ℕ) (rest : List Char) :
    twoDigits (lastDigits 2 n ++ rest) = .ok (n % 100, rest) := by
  have hn : n / 10 % 10 * 10 + n % 10 = n % 100 := by omega
  simp only [lastDigits, List.nil_append, List.cons_append, twoDigits,
    digit_digitChar (Nat.mod_lt _ (by decide)), ok_bind, hn]
  rfl

theorem lastDigits_four (n : ℕ) : lastDigits 4 n = lastDigits 2 (n / 100) ++ lastDigits 2 n := by
  simp [lastDigits, Nat.div_div_eq_div_mul]

theorem takeWhile_take_append {digits rest : List Char} {most : ℕ}
    (hdigits : ∀ c ∈ digits, c.isDigit = true) (hlen : digits.length ≤ most)
    (hrest : ∀ c ∈ rest.head?, c.isDigit = false) :
    ((digits ++ rest).take most).takeWhile Char.isDigit = digits := by
  rw [List.take_append, List.take_of_length_le hlen, List.takeWhile_append_of_pos hdigits]
  have hstop : (rest.take (most - digits.length)).takeWhile Char.isDigit = [] := by
    cases rest with
    | nil => simp
    | cons c rest =>
      cases most - digits.length with
      | zero => rfl
      | succ k => simp [hrest c rfl]
  rw [hstop, List.append_nil]

theorem number_append {digits rest : List Char} {most : ℕ} (hne : digits ≠ [])
    (hdigits : ∀ c ∈ digits, c.isDigit = true) (hlen : digits.length ≤ most)
    (hrest : ∀ c ∈ rest.head?, c.isDigit = false) :
    number most (digits ++ rest) = .ok (numberOf digits, rest) := by
  obtain ⟨c, tail, rfl⟩ := List.exists_cons_of_ne_nil hne
  have htake := takeWhile_take_append hdigits hlen hrest
  rw [List.cons_append] at htake ⊢
  simp only [number, hdigits c (by simp), if_true, htake]
  simp

/-- Up to nine digits after a decimal point give the nanoseconds they stand for. -/
theorem fraction_append {digits rest : List Char} (hne : digits ≠ [])
    (hdigits : ∀ c ∈ digits, c.isDigit = true) (hlen : digits.length ≤ 9)
    (hrest : ∀ c ∈ rest.head?, c.isDigit = false) :
    fraction (digits ++ rest) = .ok (numberOf digits * 10 ^ (9 - digits.length), rest) := by
  have hdrop : (digits ++ rest).dropWhile Char.isDigit = rest := by
    rw [List.dropWhile_append_of_pos hdigits]
    cases rest with
    | nil => rfl
    | cons c rest => simp [hrest c rfl]
  rw [fraction, number_append hne hdigits hlen hrest, takeWhile_take_append hdigits hlen hrest,
    hdrop]
  rfl

end Instant

end CaseRouting
