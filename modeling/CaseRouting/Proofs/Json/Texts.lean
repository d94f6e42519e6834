import CaseRouting.Json.Reader
import CaseRouting.Json.Value
import CaseRouting.Proofs.Action

/-!
# Texts in JSON

A text is read back from its literal, whatever characters it holds. The reader is given enough fuel
by the length of what it reads, as each character of the text takes at least one of the literal.
-/

namespace CaseRouting.Json

open Text (hexDigit?)

theorem hexDigit?_hexDigit (n : ℕ) : hexDigit? (hexDigit n) = some (n % 16) := by
  have hdigits : ∀ d < 16, hexDigit? (Nat.digitChar d) = some d := by decide
  exact hdigits (n % 16) (Nat.mod_lt _ (by decide))

theorem fourHex_hexDigit {n : ℕ} (h : n < 256) (rest : List Char) :
    fourHex ('0' :: '0' :: hexDigit (n / 16) :: hexDigit n :: rest) = some (n, rest) := by
  have hzero : hexDigit? '0' = some 0 := by decide
  have hnumber : n / 16 % 16 * 16 + n % 16 = n := by omega
  simp [fourHex, hzero, hexDigit?_hexDigit, hnumber]

theorem unicodeEscape_control {c : Char} (h : c.toNat < 0x20) (rest : List Char) :
    unicodeEscape ('0' :: '0' :: hexDigit (c.toNat / 16) :: hexDigit c.toNat :: rest) =
      some (some c, rest) := by
  have hfour := fourHex_hexDigit (show c.toNat < 256 by omega) rest
  have hhigh : isHighSurrogate c.toNat = false := by
    simp [isHighSurrogate]
    omega
  have hlow : isLowSurrogate c.toNat = false := by
    simp [isLowSurrogate]
    omega
  unfold unicodeEscape
  simp [hfour, hhigh, hlow]

/-- The reader takes the escape of a character for that character. -/
theorem readText_escapeChar (fuel : ℕ) (taken : List Char) (c : Char) (rest : List Char) :
    readText (fuel + 1) taken true (escapeChar c ++ rest) =
      readText fuel (c :: taken) true rest := by
  unfold escapeChar
  split
  iterate 7 rfl
  next hquote hslash _ _ _ _ _ =>
    split
    · next hc => simp only [List.cons_append, List.nil_append, readText, unicodeEscape_control hc]
    · next hc =>
      -- The plain case of the reader asks for what the earlier cases are not.
      rw [List.singleton_append, readText]
      · simp [hc, show c ≠ '\\' from hslash]
      · exact hquote
      · intro _ hc' _
        exact hslash hc'
      · intro _ _ hc' _
        exact hslash hc'

theorem readText_flatMap_escapeChar {cs taken rest : List Char} {fuel : ℕ}
    (h : cs.length < fuel) :
    readText fuel taken true (cs.flatMap escapeChar ++ '"' :: rest) =
      (.text (some (.ofList (taken.reverse ++ cs))), rest) := by
  induction cs generalizing taken fuel with
  | nil =>
    obtain ⟨fuel, rfl⟩ := Nat.exists_eq_add_one_of_ne_zero (Nat.ne_of_gt h)
    simp [readText]
  | cons c cs ih =>
    obtain ⟨fuel, rfl⟩ := Nat.exists_eq_add_one_of_ne_zero (Nat.ne_of_gt (Nat.zero_lt_of_lt h))
    rw [List.flatMap_cons, List.append_assoc, readText_escapeChar, ih (Nat.lt_of_succ_lt_succ h)]
    simp

theorem length_escapeChar_pos (c : Char) : 0 < (escapeChar c).length := by
  unfold escapeChar
  split
  iterate 7 exact Nat.succ_pos _
  split <;> exact Nat.succ_pos _

theorem length_le_length_flatMap_escapeChar (cs : List Char) :
    cs.length ≤ (cs.flatMap escapeChar).length := by
  induction cs with
  | nil => simp
  | cons c cs ih =>
    have hc := length_escapeChar_pos c
    rw [List.flatMap_cons, List.length_append, List.length_cons]
    omega

theorem readValue_textLiteral (s : String) (fuel : ℕ) (rest : List Char) :
    readValue (fuel + 1) (textLiteral s ++ rest) = (.ofText s, rest) := by
  have hread : readText ((s.toList.flatMap escapeChar ++ '"' :: rest).length + 1) [] true
      (s.toList.flatMap escapeChar ++ '"' :: rest) = (.ofText s, rest) := by
    rw [readText_flatMap_escapeChar, List.reverse_nil, List.nil_append, String.ofList_toList]
    · rfl
    · have hlength := length_le_length_flatMap_escapeChar s.toList
      rw [List.length_append]
      omega
  simp only [textLiteral, List.cons_append, List.append_assoc, List.nil_append]
  rw [readValue]
  exact hread

end CaseRouting.Json
