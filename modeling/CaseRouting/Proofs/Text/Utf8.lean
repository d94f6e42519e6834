import CaseRouting.Text.Utf8
import Mathlib.Tactic

/-!
# UTF-8 round trip

Decoding the bytes of a text gives the text. The bytes of a character depend on how many it takes,
so there is one lemma for each of the four lengths.
-/

namespace CaseRouting.Text

theorem isContinuation_ofNat {n : ℕ} (h : n < 64) :
    isContinuation (UInt8.ofNat (n + 0x80)) = true := by
  simp [isContinuation, UInt8.le_iff_toNat_le, UInt8.lt_iff_toNat_lt]
  omega

theorem continuationBits_ofNat {n : ℕ} (h : n < 64) :
    continuationBits (UInt8.ofNat (n + 0x80)) = n := by
  simp [continuationBits]
  omega

theorem charFrom?_toNat {least : ℕ} {c : Char} (h : least ≤ c.toNat) :
    charFrom? least c.toNat = some c := by
  have hv : c.toNat.isValidChar := c.valid
  rw [charFrom?, dif_pos hv, if_pos h]
  rfl

section

variable {c : Char} (start : ℕ) (rest : Bytes)

theorem decodeUtf8From_one (h : c.toNat < 0x80) :
    decodeUtf8From start (UInt8.ofNat c.toNat :: rest) =
      (c :: ·) <$> decodeUtf8From (start + 1) rest := by
  have hn : (UInt8.ofNat c.toNat).toNat = c.toNat :=
    UInt8.toNat_ofNat_of_lt' (show _ < 256 by omega)
  have hlt : UInt8.ofNat c.toNat < 0x80 := by simpa [UInt8.lt_iff_toNat_lt, hn] using h
  rw [decodeUtf8From.eq_def]
  simp only [if_pos hlt, hn, Char.ofNat_toNat]

theorem decodeUtf8From_two (hl : 0x80 ≤ c.toNat) (hh : c.toNat < 0x800) :
    decodeUtf8From start (UInt8.ofNat (c.toNat / 64 % 32 + 0xC0) ::
        UInt8.ofNat (c.toNat % 64 + 0x80) :: rest) =
      (c :: ·) <$> decodeUtf8From (start + 2) rest := by
  generalize ha : UInt8.ofNat (c.toNat / 64 % 32 + 0xC0) = a
  have hn : a.toNat = c.toNat / 64 % 32 + 0xC0 := by
    rw [← ha]
    exact UInt8.toNat_ofNat_of_lt' (show _ < 256 by omega)
  have hlt : ¬a < 0x80 := by simp [UInt8.lt_iff_toNat_lt, hn]
  have hfirst : (0xC0 ≤ a && a < 0xE0) = true := by
    simp [UInt8.lt_iff_toNat_lt, UInt8.le_iff_toNat_le, hn]
    omega
  have hnum : a.toNat % 32 * 64 + c.toNat % 64 = c.toNat := by omega
  rw [decodeUtf8From.eq_def]
  simp only [if_neg hlt, isContinuation_ofNat (Nat.mod_lt _ (by decide)),
    continuationBits_ofNat (Nat.mod_lt _ (by decide)), Bool.not_true, Bool.false_eq_true, if_false,
    hfirst, if_true, hnum, charFrom?_toNat hl]

theorem decodeUtf8From_three (hl : 0x800 ≤ c.toNat) (hh : c.toNat < 0x10000) :
    decodeUtf8From start (UInt8.ofNat (c.toNat / 4096 % 16 + 0xE0) ::
        UInt8.ofNat (c.toNat / 64 % 64 + 0x80) :: UInt8.ofNat (c.toNat % 64 + 0x80) :: rest) =
      (c :: ·) <$> decodeUtf8From (start + 3) rest := by
  generalize ha : UInt8.ofNat (c.toNat / 4096 % 16 + 0xE0) = a
  have hn : a.toNat = c.toNat / 4096 % 16 + 0xE0 := by
    rw [← ha]
    exact UInt8.toNat_ofNat_of_lt' (show _ < 256 by omega)
  have hlt : ¬a < 0x80 := by simp [UInt8.lt_iff_toNat_lt, hn]
  have hfirst : (0xC0 ≤ a && a < 0xE0) = false := by
    simp [UInt8.lt_iff_toNat_lt, UInt8.le_iff_toNat_le, hn]
  have hsecond : (0xE0 ≤ a && a < 0xF0) = true := by
    simp [UInt8.lt_iff_toNat_lt, UInt8.le_iff_toNat_le, hn]
    omega
  have hnum : (a.toNat % 16 * 64 + c.toNat / 64 % 64) * 64 + c.toNat % 64 = c.toNat := by omega
  rw [decodeUtf8From.eq_def]
  simp only [if_neg hlt, isContinuation_ofNat (Nat.mod_lt _ (by decide)),
    continuationBits_ofNat (Nat.mod_lt _ (by decide)), Bool.not_true, Bool.false_eq_true, if_false,
    hfirst, hsecond, if_true, hnum, charFrom?_toNat hl]

theorem decodeUtf8From_four (hl : 0x10000 ≤ c.toNat) :
    decodeUtf8From start (UInt8.ofNat (c.toNat / 262144 % 8 + 0xF0) ::
        UInt8.ofNat (c.toNat / 4096 % 64 + 0x80) :: UInt8.ofNat (c.toNat / 64 % 64 + 0x80) ::
        UInt8.ofNat (c.toNat % 64 + 0x80) :: rest) =
      (c :: ·) <$> decodeUtf8From (start + 4) rest := by
  have hc : c.toNat < 0x110000 := by
    have := c.valid
    rcases this with h | h
    · exact h.trans (by decide)
    · exact h.2
  generalize ha : UInt8.ofNat (c.toNat / 262144 % 8 + 0xF0) = a
  have hn : a.toNat = c.toNat / 262144 % 8 + 0xF0 := by
    rw [← ha]
    exact UInt8.toNat_ofNat_of_lt' (show _ < 256 by omega)
  have hlt : ¬a < 0x80 := by simp [UInt8.lt_iff_toNat_lt, hn]
  have hfirst : (0xC0 ≤ a && a < 0xE0) = false := by
    simp [UInt8.lt_iff_toNat_lt, UInt8.le_iff_toNat_le, hn]
  have hsecond : (0xE0 ≤ a && a < 0xF0) = false := by
    simp [UInt8.lt_iff_toNat_lt, UInt8.le_iff_toNat_le, hn]
  have hlow : (0xF0 : UInt8) ≤ a := by simp [UInt8.le_iff_toNat_le, hn]
  have hhigh : a < (0xF8 : UInt8) := by simp [UInt8.lt_iff_toNat_lt, hn]; omega
  have hnum : ((a.toNat % 8 * 64 + c.toNat / 4096 % 64) * 64 + c.toNat / 64 % 64) * 64 +
      c.toNat % 64 = c.toNat := by omega
  rw [decodeUtf8From.eq_def]
  simp only [if_neg hlt, isContinuation_ofNat (Nat.mod_lt _ (by decide)),
    continuationBits_ofNat (Nat.mod_lt _ (by decide)), Bool.not_true, Bool.false_eq_true, if_false,
    hfirst, hsecond, hlow, hhigh, decide_true, Bool.and_true, if_true, hnum, charFrom?_toNat hl]

theorem decodeUtf8From_encodeChar (c : Char) :
    decodeUtf8From start (String.utf8EncodeChar c ++ rest) =
      (c :: ·) <$> decodeUtf8From (start + (String.utf8EncodeChar c).length) rest := by
  have hv : c.val.toNat = c.toNat := rfl
  unfold String.utf8EncodeChar
  simp only [hv]
  split_ifs with h₁ h₂ h₃
  · exact decodeUtf8From_one start rest (by omega)
  · exact decodeUtf8From_two start rest (by omega) (by omega)
  · exact decodeUtf8From_three start rest (by omega) (by omega)
  · exact decodeUtf8From_four start rest (by omega)

end

theorem utf8EncodeChar_of_lt {c : Char} (h : c.toNat < 0x80) :
    String.utf8EncodeChar c = [UInt8.ofNat c.toNat] :=
  if_pos (Nat.le_of_lt_succ h)

/-- Every byte of a character that takes more than one is at least 128. -/
theorem le_toNat_of_mem_utf8EncodeChar {c : Char} (hc : 0x80 ≤ c.toNat) {b : UInt8}
    (h : b ∈ String.utf8EncodeChar c) : 0x80 ≤ b.toNat := by
  have hbyte (n : ℕ) (hl : 0x80 ≤ n) (hh : n < 0x100) (hb : b = UInt8.ofNat n) :
      0x80 ≤ b.toNat := by
    rwa [hb, UInt8.toNat_ofNat_of_lt' hh]
  have hv : c.val.toNat = c.toNat := rfl
  simp only [String.utf8EncodeChar, hv] at h
  split_ifs at h with h₁ h₂ h₃
  · omega
  all_goals simp only [List.mem_cons, List.not_mem_nil, or_false] at h
  · rcases h with h | h <;> exact hbyte _ (by omega) (by omega) h
  · rcases h with h | h | h <;> exact hbyte _ (by omega) (by omega) h
  · rcases h with h | h | h | h <;> exact hbyte _ (by omega) (by omega) h

theorem decodeUtf8From_encodeUtf8 (cs : List Char) (start : ℕ) :
    decodeUtf8From start (encodeUtf8 cs) = .ok cs := by
  induction cs generalizing start with
  | nil => rw [encodeUtf8, List.flatMap_nil, decodeUtf8From.eq_def]
  | cons c cs ih =>
    rw [encodeUtf8, List.flatMap_cons, decodeUtf8From_encodeChar]
    rw [encodeUtf8] at ih
    rw [ih]
    rfl

theorem encodeUtf8_injective : Function.Injective encodeUtf8 := by
  intro as bs h
  have hdecode := congrArg (decodeUtf8From 0) h
  rw [decodeUtf8From_encodeUtf8, decodeUtf8From_encodeUtf8] at hdecode
  exact Except.ok.inj hdecode

@[simp] theorem decodeUtf8_bytesOf (s : String) : decodeUtf8 (bytesOf s) = .ok s := by
  rw [decodeUtf8, bytesOf, decodeUtf8From_encodeUtf8]
  exact congrArg Except.ok String.ofList_toList

end CaseRouting.Text
