import CaseRouting.Address.Percent
import CaseRouting.Proofs.Text.Utf8

/-!
# Percent encoding undone

Where the percent sign itself is encoded, decoding gives back the bytes of the text, so different
texts have different encodings. What is encoded holds no reserved character.
-/

namespace CaseRouting.Address

open Text (encodeUtf8 hexDigit?)

variable {reserved : Char → Bool} {cs : List Char} {x : Char}

theorem hexDigit?_upperHex {n : ℕ} (h : n < 16) : hexDigit? (upperHex n) = some n := by
  have hdigits : ∀ d < 16, hexDigit? (upperHex d) = some d := by decide
  exact hdigits n h

theorem decode_percentByte (b : UInt8) (rest : List Char) :
    decode (percentByte b ++ rest) = b :: decode rest := by
  have hb : b.toNat < 256 := b.toNat_lt
  have hnumber : 16 * (b.toNat / 16) + b.toNat % 16 = b.toNat := Nat.div_add_mod b.toNat 16
  simp only [percentByte, List.cons_append, List.nil_append]
  rw [decode, hexDigit?_upperHex (show b.toNat / 16 < 16 by omega),
    hexDigit?_upperHex (Nat.mod_lt _ (by decide))]
  simp only [hnumber, UInt8.ofNat_toNat]

theorem decode_flatMap_percentByte (bytes : Bytes) (rest : List Char) :
    decode (bytes.flatMap percentByte ++ rest) = bytes ++ decode rest := by
  induction bytes with
  | nil => rfl
  | cons b bytes ih =>
    rw [List.flatMap_cons, List.append_assoc, decode_percentByte, ih, List.cons_append]

theorem decode_cons_of_ne (h : x ≠ '%') (rest : List Char) :
    decode (x :: rest) = String.utf8EncodeChar x ++ decode rest := by
  rw [decode]
  intro _ _ _ hx _
  exact h hx

theorem encode_cons (reserved : Char → Bool) (x : Char) (cs : List Char) :
    encode reserved (x :: cs) =
      (if x.toNat < 0x20 || 0x7E < x.toNat || reserved x then percentChar x else [x]) ++
        encode reserved cs :=
  List.flatMap_cons

theorem decode_encode (hpercent : reserved '%' = true) (cs : List Char) :
    decode (encode reserved cs) = encodeUtf8 cs := by
  induction cs with
  | nil => rw [encode, List.flatMap_nil, decode, encodeUtf8, List.flatMap_nil]
  | cons x cs ih =>
    rw [encode_cons, encodeUtf8, List.flatMap_cons]
    rw [encodeUtf8] at ih
    split
    · rw [percentChar, decode_flatMap_percentByte, ih]
    · next hplain =>
      have hx : x ≠ '%' := by
        rintro rfl
        exact hplain (by simp [hpercent])
      rw [List.singleton_append, decode_cons_of_ne hx, ih]

theorem encode_injective (hpercent : reserved '%' = true) :
    Function.Injective (encode reserved) := by
  intro as bs h
  apply Text.encodeUtf8_injective
  rw [← decode_encode hpercent as, h, decode_encode hpercent bs]

/-- An encoded text holds percent signs, digits, and characters that stand for themselves. -/
theorem mem_encode (h : x ∈ encode reserved cs) :
    x = '%' ∨ (∃ n < 16, x = upperHex n) ∨ reserved x = false := by
  obtain ⟨c, _, hx⟩ := List.mem_flatMap.mp h
  split at hx
  · obtain ⟨b, _, hx⟩ := List.mem_flatMap.mp hx
    have hb : b.toNat < 256 := b.toNat_lt
    simp only [percentByte, List.mem_cons, List.not_mem_nil, or_false] at hx
    rcases hx with hx | hx | hx
    · exact .inl hx
    · exact .inr (.inl ⟨_, by omega, hx⟩)
    · exact .inr (.inl ⟨_, Nat.mod_lt _ (by decide), hx⟩)
  · next hplain =>
    rw [Bool.not_eq_true, Bool.or_eq_false_iff] at hplain
    obtain rfl := List.mem_singleton.mp hx
    exact .inr (.inr hplain.2)

theorem not_mem_encode {mark : Char} (hpercent : mark ≠ '%') (hdigits : ∀ n < 16, mark ≠ upperHex n)
    (hmark : reserved mark = true) : mark ∉ encode reserved cs := by
  intro h
  rcases mem_encode h with hx | ⟨n, hn, hx⟩ | hx
  · exact hpercent hx
  · exact hdigits n hn hx
  · exact absurd hx (by simp [hmark])

/-- A segment that is added to a path does not end it. -/
theorem not_mem_encode_segment {mark : Char} (hmark : mark ∈ ['/', '\\', '?', '#']) :
    mark ∉ encode reservedInSegment cs := by
  simp only [List.mem_cons, List.not_mem_nil, or_false] at hmark
  rcases hmark with rfl | rfl | rfl | rfl <;>
    exact not_mem_encode (by decide) (by decide) (by decide)

end CaseRouting.Address
