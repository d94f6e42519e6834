import CaseRouting.Proofs.Instant.Calendar
import CaseRouting.Proofs.Instant.Digits
import CaseRouting.Proofs.Text.Trimming

/-!
# Stored instants read back

The strict reader gives an instant back from its stored form exactly when its year has four digits;
the stored form of any other year begins with a sign, which the reader refuses.
-/

namespace CaseRouting

theorem Date.make?_self (d : Date) : Date.make? d.year d.month d.day = some d := by
  rw [Date.make?, dif_pos d.month_range, dif_pos d.day_range]

theorem TimeOfDay.make?_self (t : TimeOfDay) :
    TimeOfDay.make? t.hour t.minute t.second t.nano = some t := by
  rw [TimeOfDay.make?, dif_pos ⟨t.hour_lt, t.minute_lt, t.second_le, t.nano_lt⟩]

theorem Date.day_le (d : Date) : d.day ≤ 31 := by
  have hd : daysInMonth d.year d.month ≤ 31 := by
    unfold daysInMonth
    split_ifs <;> omega
  exact d.day_range.2.trans hd

namespace Instant

/-- The year is one of 0 to 9999, as four digits can tell. -/
def HasFourDigitYear (t : Instant) : Prop := 0 ≤ t.date.year ∧ t.date.year ≤ 9999

instance (t : Instant) : Decidable t.HasFourDigitYear :=
  inferInstanceAs (Decidable (_ ∧ _))

theorem firstMonth_range : 1 ≤ 1 ∧ 1 ≤ 12 := by decide

def startOfYear (year : ℤ) : Instant where
  date := ⟨year, 1, 1, firstMonth_range, Nat.le_refl 1, daysInMonth_pos year 1⟩
  time := ⟨0, 0, 0, 0, by decide, by decide, by decide, by decide⟩

theorem toList_yearText {t : Instant} (h : t.HasFourDigitYear) :
    (yearText t.date.year).toList = lastDigits 4 t.date.year.toNat := by
  obtain ⟨hl, hh⟩ := h
  rw [yearText, if_pos ⟨hl, hh⟩, toList_padded (by decide) (by omega)]

theorem toList_secondsText {t : Instant} (h : t.HasFourDigitYear) :
    t.secondsText.toList =
      lastDigits 2 (t.date.year.toNat / 100) ++ (lastDigits 2 t.date.year.toNat ++
        '-' :: (lastDigits 2 t.date.month ++ '-' :: (lastDigits 2 t.date.day ++
          'T' :: (lastDigits 2 t.time.hour ++ ':' :: (lastDigits 2 t.time.minute ++
            ':' :: lastDigits 2 t.time.second))))) := by
  have hmonth : t.date.month < 10 ^ 2 := by have := t.date.month_range; omega
  have hday : t.date.day < 10 ^ 2 := by have := t.date.day_le; omega
  have hhour : t.time.hour < 10 ^ 2 := by have := t.time.hour_lt; omega
  have hminute : t.time.minute < 10 ^ 2 := by have := t.time.minute_lt; omega
  have hsecond : t.time.second < 10 ^ 2 := by have := t.time.second_le; omega
  simp only [secondsText, String.toList_append, toList_yearText h, lastDigits_four,
    toList_padded two_pos hmonth, toList_padded two_pos hday, toList_padded two_pos hhour,
    toList_padded two_pos hminute, toList_padded two_pos hsecond, List.append_assoc]
  rfl

/-- A text for the fraction of a second: nothing for a whole second, or a decimal point with up to
nine digits that tell the nanoseconds exactly. -/
inductive TellsFraction (nano : ℕ) : String → Prop
  | nothing : nano = 0 → TellsFraction nano ""
  | digits {width n : ℕ} : 0 < width → width ≤ 9 → n * 10 ^ (9 - width) = nano →
      TellsFraction nano ("." ++ padded width n)

theorem tellsFraction_fractionText (nano : ℕ) : TellsFraction nano (fractionText nano) := by
  unfold fractionText
  split_ifs with h0 h3 h6
  · exact .nothing h0
  · exact .digits (by decide) (by decide) (by omega)
  · exact .digits (by decide) (by decide) (by omega)
  · exact .digits (by decide) (by decide) (by omega)

section Fraction

variable {nano : ℕ} {fraction : String} {rest : List Char}

theorem TellsFraction.head?_append (h : TellsFraction nano fraction)
    (hdigit : ∀ c ∈ rest.head?, c.isDigit = false) :
    ∀ c ∈ (fraction.toList ++ rest).head?, c.isDigit = false := by
  cases h with
  | nothing => exact hdigit
  | digits =>
    rw [String.toList_append, List.append_assoc]
    rintro c ⟨⟩
    decide

/-- The fraction of a second is read back before anything that cannot go on with it. -/
theorem TellsFraction.optionalFraction_append (h : TellsFraction nano fraction)
    (hnano : nano < 1000000000) (hdigit : ∀ c ∈ rest.head?, c.isDigit = false)
    (hpoint : ∀ c ∈ rest.head?, c ≠ '.') :
    optionalFraction (fraction.toList ++ rest) = .ok (nano, rest) := by
  cases h with
  | nothing h0 =>
    subst h0
    cases rest with
    | nil => rfl
    | cons c rest =>
      have hc := hpoint c rfl
      rw [String.toList_empty, List.nil_append]
      unfold optionalFraction
      split
      · next heq => exact absurd (List.cons.inj heq).1 hc
      · rfl
  | @digits width n hw hw9 hn =>
    have hlt : n < 10 ^ width := by
      have hpow : 10 ^ width * 10 ^ (9 - width) = 1000000000 := by
        rw [← pow_add, Nat.add_sub_cancel' hw9]
        rfl
      rw [← hn, ← hpow] at hnano
      exact Nat.lt_of_mul_lt_mul_right hnano
    have hne : lastDigits width n ≠ [] := by
      rw [← List.length_pos_iff, length_lastDigits]
      exact hw
    have hf := fraction_append hne (fun c hc => isDigit_of_mem_lastDigits hc)
      (by rwa [length_lastDigits]) hdigit
    rw [numberOf_lastDigits hlt, length_lastDigits, hn] at hf
    rw [String.toList_append, toList_padded hw hlt, List.append_assoc]
    exact hf

end Fraction

theorem length_le_byteLength (cs : List Char) : cs.length ≤ byteLength cs := by
  induction cs with
  | nil => simp [byteLength]
  | cons c cs ih =>
    have := c.utf8Size_pos
    simp only [byteLength, List.length_cons] at ih ⊢
    omega

/-- A local date and time with four digits for the year is read as the instant it denotes, in
whatever way the zone after it is told. -/
theorem ofRfc3339_local {t : Instant} (h : t.HasFourDigitYear) {fraction zone : String}
    {minutes : ℤ} (htells : TellsFraction t.time.nano fraction)
    (hzone : offset true (expect (· == ':')) zone.toList = .ok (minutes, []))
    (hrange : -1440 < minutes ∧ minutes < 1440)
    (hdigit : ∀ c ∈ zone.toList.head?, c.isDigit = false)
    (hpoint : ∀ c ∈ zone.toList.head?, c ≠ '.') :
    ofRfc3339 (t.secondsText ++ fraction ++ zone) =
      .ok (ofLocal t.date t.time minutes) := by
  have hlen : ¬byteLength (t.secondsText ++ fraction ++ zone).toList < 19 := by
    have hb := length_le_byteLength (t.secondsText ++ fraction ++ zone).toList
    have hs : 19 ≤ t.secondsText.toList.length := by
      rw [toList_secondsText h]
      simp
    simp only [String.toList_append, List.length_append] at hb ⊢
    omega
  have hfraction := htells.optionalFraction_append t.time.nano_lt hdigit hpoint
  have hyear : ((t.date.year.toNat / 100 % 100 * 100 + t.date.year.toNat % 100 : ℕ) : ℤ) =
      t.date.year := by
    obtain ⟨hl, hh⟩ := h
    omega
  have hmonth : t.date.month % 100 = t.date.month := by have := t.date.month_range; omega
  have hday : t.date.day % 100 = t.date.day := by have := t.date.day_le; omega
  have hhour : t.time.hour % 100 = t.time.hour := by have := t.time.hour_lt; omega
  have hminute : t.time.minute % 100 = t.time.minute := by have := t.time.minute_lt; omega
  have hsecond : t.time.second % 100 = t.time.second := by have := t.time.second_le; omega
  have hoffset : checkOffset minutes = .ok minutes := if_pos hrange
  simp only [ofRfc3339, if_neg hlen]
  simp only [String.toList_append, toList_secondsText h, List.append_assoc, List.cons_append,
    twoDigits_lastDigits, ok_bind, expect, beq_self_eq_true, Bool.true_or, if_true, hyear, hmonth,
    hday, hhour, hminute, hsecond, Date.make?_self, TimeOfDay.make?_self, orOutOfRange, hfraction,
    hzone, List.isEmpty_nil, Bool.not_true, Bool.false_eq_true, if_false, hoffset]
  rfl

theorem ofRfc3339_of_sign {s : String} {c : Char} {rest : List Char} (hs : s.toList = c :: rest)
    (hc : c.isDigit = false) (t : Instant) : ofRfc3339 s ≠ .ok t := by
  have hdigit : twoDigits (c :: rest) = .error .invalid := by
    rw [twoDigits, digit, hc]
    rfl
  simp only [ofRfc3339, hs, hdigit]
  split_ifs <;> simp

theorem exists_sign_of_not_hasFourDigitYear {t : Instant} (h : ¬t.HasFourDigitYear) :
    ∃ c rest, t.stored.toList = c :: rest ∧ c.isDigit = false ∧ Text.isBlank c = false := by
  have hy : yearText t.date.year =
      (if t.date.year < 0 then "-" else "+") ++ padded 4 t.date.year.natAbs := if_neg h
  simp only [stored, secondsText, hy, String.toList_append, List.append_assoc]
  split_ifs
  · exact ⟨'-', _, rfl, by decide⟩
  · exact ⟨'+', _, rfl, by decide⟩

theorem isBlank_digitChar {d : ℕ} (h : d < 10) : Text.isBlank d.digitChar = false := by
  interval_cases d <;> decide

theorem ofRfc3339_stored {t : Instant} (h : t.HasFourDigitYear) : ofRfc3339 t.stored = .ok t := by
  have hread : ofRfc3339 t.stored = .ok (ofLocal t.date t.time 0) := by
    refine ofRfc3339_local h (tellsFraction_fractionText _) (by rfl) (by decide) ?_ ?_
    · rintro c ⟨⟩
      rfl
    · rintro c ⟨⟩
      decide
  rw [hread, ofLocal_zero]

theorem ofRfc3339_stored_eq_ok_iff {t u : Instant} :
    ofRfc3339 t.stored = .ok u ↔ t.HasFourDigitYear ∧ u = t := by
  by_cases h : t.HasFourDigitYear
  · rw [ofRfc3339_stored h, Except.ok.injEq]
    exact ⟨fun hu => ⟨h, hu.symm⟩, fun hu => hu.2.symm⟩
  · obtain ⟨c, rest, hs, hc, _⟩ := exists_sign_of_not_hasFourDigitYear h
    exact ⟨fun hu => absurd hu (ofRfc3339_of_sign hs hc u), fun hu => absurd hu.1 h⟩

theorem exists_ofRfc3339_stored_eq_error {t : Instant} (h : ¬t.HasFourDigitYear) :
    ∃ e, ofRfc3339 t.stored = .error e := by
  cases hs : ofRfc3339 t.stored with
  | error e => exact ⟨e, rfl⟩
  | ok u => exact absurd (ofRfc3339_stored_eq_ok_iff.mp hs).1 h

theorem stored_ne_empty (t : Instant) : t.stored ≠ "" := by
  rw [stored, ne_eq, String.append_eq_empty_iff]
  exact fun h => absurd h.2 (by decide)

theorem isTrimmed_stored (t : Instant) : Text.IsTrimmed t.stored := by
  rw [Text.isTrimmed_iff]
  constructor
  · intro c hc
    by_cases h : t.HasFourDigitYear
    · simp only [stored, String.toList_append, toList_secondsText h, lastDigits,
        List.nil_append, List.cons_append, List.head?_cons, Option.mem_some_iff] at hc
      rw [← hc]
      exact isBlank_digitChar (Nat.mod_lt _ (by decide))
    · obtain ⟨sign, rest, hs, _, hblank⟩ := exists_sign_of_not_hasFourDigitYear h
      rw [hs, List.head?_cons, Option.mem_some_iff] at hc
      rw [← hc]
      exact hblank
  · intro c hc
    have hlast : t.stored.toList.getLast? = some '0' := by
      rw [stored, String.toList_append, List.getLast?_append]
      rfl
    rw [hlast, Option.mem_some_iff] at hc
    rw [← hc]
    decide

end Instant

end CaseRouting
