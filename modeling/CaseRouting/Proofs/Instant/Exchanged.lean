import CaseRouting.Proofs.Instant.Stored

/-!
# Exchanged instants read back

The readers that take a date and a time field by field give back what the fields were written from,
whether or not they allow blanks between them. So the lenient reader gives an instant back from its
exchanged form, whatever the sign and the length of its year.
-/

namespace CaseRouting.Instant

variable {width n most : ℕ} {c : Char} {rest : List Char}

/-! ## Numbers of any length -/

open Text (numberOf)

theorem numberOf_replicate_append (k : ℕ) (digits : List Char) :
    numberOf (List.replicate k '0' ++ digits) = numberOf digits := by
  induction k with
  | zero => rfl
  | succ k ih => exact ih

theorem numberOf_padded (width n : ℕ) : numberOf (padded width n).toList = n := by
  rw [padded, String.toList_ofList, numberOf_replicate_append, numberOf,
    Nat.ofDigitChars_ten_toDigits]

theorem isDigit_of_mem_padded (h : c ∈ (padded width n).toList) : c.isDigit = true := by
  rw [padded, String.toList_ofList, List.mem_append] at h
  rcases h with h | h
  · rw [List.eq_of_mem_replicate h]
    decide
  · exact Nat.isDigit_of_mem_toDigits (by decide) (by decide) h

theorem padded_ne_nil (width n : ℕ) : (padded width n).toList ≠ [] := by
  rw [padded, String.toList_ofList]
  exact List.append_ne_nil_of_right_ne_nil _ Nat.toDigits_ne_nil

theorem number_padded (hlen : (padded width n).toList.length ≤ most)
    (hrest : ∀ c ∈ rest.head?, c.isDigit = false) :
    number most ((padded width n).toList ++ rest) = .ok (n, rest) := by
  rw [number_append (padded_ne_nil width n) (fun _ => isDigit_of_mem_padded) hlen hrest,
    numberOf_padded]

theorem isDigit_head?_cons (h : c.isDigit = false) (rest : List Char) :
    ∀ d ∈ (c :: rest).head?, d.isDigit = false := by
  rintro d ⟨⟩
  exact h

/-! ## Blanks before a field -/

theorem isBlank_of_isDigit (h : c.isDigit = true) : Text.isBlank c = false := by
  have hrange : 48 ≤ c.toNat ∧ c.toNat ≤ 57 := by
    exact Char.isDigit_iff_toNat.mp h
  simp only [Text.isBlank, Bool.or_eq_false_iff, Bool.and_eq_false_iff, decide_eq_false_iff_not,
    beq_eq_false_iff_ne]
  omega

theorem trimStart_cons (h : Text.isBlank c = false) :
    Text.trimStart (c :: rest) = c :: rest :=
  List.dropWhile_cons_of_neg (by simp [h])

theorem trimStart_padded (width n : ℕ) (rest : List Char) :
    Text.trimStart ((padded width n).toList ++ rest) = (padded width n).toList ++ rest := by
  obtain ⟨c, digits, hdigits⟩ := List.exists_cons_of_ne_nil (padded_ne_nil width n)
  rw [hdigits, List.cons_append]
  exact trimStart_cons (isBlank_of_isDigit (isDigit_of_mem_padded (hdigits ▸ List.mem_cons_self)))

theorem literal_cons (blanks : Bool) (h : Text.isBlank c = false) :
    literal blanks c (c :: rest) = .ok rest := by
  rw [literal, trimStart_cons h, ite_self, expect, beq_self_eq_true, if_pos rfl]

theorem length_padded (hw : 0 < width) (h : n < 10 ^ width) :
    (padded width n).toList.length = width := by
  rw [toList_padded hw h, length_lastDigits]

theorem field_padded {low high : ℕ} (hrange : low ≤ n ∧ n ≤ high) (hn : n < 10 ^ 2)
    (hrest : ∀ c ∈ rest.head?, c.isDigit = false) :
    field low high ((padded 2 n).toList ++ rest) = .ok (n, rest) := by
  rw [field, trimStart_padded, number_padded (length_padded two_pos hn).le hrest, ok_bind]
  exact if_pos hrange

/-! ## The fields of a date and of a time -/

theorem signedYear_of_digit (h : c.isDigit = true) :
    signedYear (c :: rest) = (fun r => ((r.1 : ℤ), r.2)) <$> number 4 (c :: rest) := by
  rw [signedYear, trimStart_cons (isBlank_of_isDigit h)]
  split
  · rename_i heq
    rw [(List.cons.inj heq).1] at h
    exact absurd h (by decide)
  · rename_i heq
    rw [(List.cons.inj heq).1] at h
    exact absurd h (by decide)
  · rfl

theorem signedYear_sign (width : ℕ) (hn : n < Nat.pow 2 31)
    (hrest : ∀ c ∈ rest.head?, c.isDigit = false) :
    signedYear ('-' :: ((padded width n).toList ++ rest)) = .ok (-(n : ℤ), rest) ∧
      signedYear ('+' :: ((padded width n).toList ++ rest)) = .ok ((n : ℤ), rest) := by
  have hread : number ((padded width n).toList ++ rest).length ((padded width n).toList ++ rest) =
      .ok (n, rest) := number_padded (by simp) hrest
  constructor
  · rw [signedYear, trimStart_cons (by decide)]
    simp only [hread, ok_bind, if_neg (show ¬Nat.pow 2 31 < n by omega), pure_eq_ok]
  · rw [signedYear, trimStart_cons (by decide)]
    simp only [hread, ok_bind, if_neg (show ¬Nat.pow 2 31 ≤ n by omega), pure_eq_ok]

/-- A year is read with the sign that it has where four digits cannot tell it. -/
theorem signedYear_yearText {year : ℤ} (h : Date.supported year = true)
    (hrest : ∀ c ∈ rest.head?, c.isDigit = false) :
    signedYear ((yearText year).toList ++ rest) = .ok (year, rest) := by
  obtain ⟨hlow, hhigh⟩ : -262143 ≤ year ∧ year ≤ 262142 := by simpa [Date.supported] using h
  have hsmall : year.natAbs < Nat.pow 2 31 := by
    have : Nat.pow 2 31 = 2147483648 := by decide
    omega
  obtain ⟨hminus, hplus⟩ := signedYear_sign 4 hsmall hrest
  unfold yearText
  split_ifs with hfour hneg
  · obtain ⟨c, digits, hdigits⟩ := List.exists_cons_of_ne_nil (padded_ne_nil 4 year.toNat)
    have hc : c.isDigit = true := isDigit_of_mem_padded (hdigits ▸ List.mem_cons_self)
    have hlen : (padded 4 year.toNat).toList.length ≤ 4 :=
      (length_padded (by decide) (by omega)).le
    have hread := number_padded hlen hrest
    rw [hdigits, List.cons_append] at hread ⊢
    rw [signedYear_of_digit hc, hread]
    exact congrArg (fun y => Except.ok (y, rest)) (Int.toNat_of_nonneg hfour.1)
  · rw [String.toList_append]
    exact hminus.trans (congrArg (fun y => Except.ok (y, rest)) (by omega))
  · rw [String.toList_append]
    exact hplus.trans (congrArg (fun y => Except.ok (y, rest)) (by omega))

theorem dateFields_of_date (blanks : Bool) {date : Date} (h : Date.supported date.year = true)
    (rest : List Char) (hrest : ∀ c ∈ rest.head?, c.isDigit = false) :
    dateFields blanks ((yearText date.year).toList ++ '-' :: ((padded 2 date.month).toList ++
        '-' :: ((padded 2 date.day).toList ++ rest))) =
      .ok ((date.year, date.month, date.day), rest) := by
  have hday := date.day_le
  have hmonth := date.month_range
  have hdash := isDigit_head?_cons (show '-'.isDigit = false by decide)
  have hliteral (tail : List Char) : literal blanks '-' ('-' :: tail) = .ok tail :=
    literal_cons blanks (by decide)
  simp only [dateFields, signedYear_yearText h (hdash _), hliteral,
    field_padded hmonth (by omega) (hdash _), field_padded ⟨date.day_range.1, hday⟩ (by omega) hrest,
    ok_bind, pure_eq_ok]

theorem timeFields_of_time (blanks : Bool) (time : TimeOfDay) {fraction : String}
    (htells : TellsFraction time.nano fraction) (rest : List Char)
    (hdigit : ∀ c ∈ rest.head?, c.isDigit = false) (hpoint : ∀ c ∈ rest.head?, c ≠ '.') :
    timeFields blanks ((padded 2 time.hour).toList ++ ':' :: ((padded 2 time.minute).toList ++
        ':' :: ((padded 2 time.second).toList ++ (fraction.toList ++ rest)))) =
      .ok ((time.hour, time.minute, time.second, time.nano), rest) := by
  have hhour := time.hour_lt
  have hminute := time.minute_lt
  have hsecond := time.second_le
  have hcolon := isDigit_head?_cons (show ':'.isDigit = false by decide)
  have hliteral (tail : List Char) : literal blanks ':' (':' :: tail) = .ok tail :=
    literal_cons blanks (by decide)
  have hfraction := htells.head?_append hdigit
  simp only [timeFields, field_padded ⟨Nat.zero_le _, Nat.le_of_lt_succ hhour⟩ (by omega) (hcolon _),
    field_padded ⟨Nat.zero_le _, Nat.le_of_lt_succ hminute⟩ (by omega) (hcolon _),
    field_padded ⟨Nat.zero_le _, hsecond⟩ (by omega) hfraction, hliteral,
    htells.optionalFraction_append time.nano_lt hdigit hpoint, ok_bind, pure_eq_ok]

theorem ofFields_eq_ok {date : Date} (time : TimeOfDay) {minutes : ℤ}
    (h : Date.supported date.year = true) (hrange : -1440 < minutes ∧ minutes < 1440)
    (hyear : Date.supported (ofLocal date time minutes).date.year = true) :
    ofFields (date.year, date.month, date.day) (time.hour, time.minute, time.second, time.nano)
      minutes = .ok (ofLocal date time minutes) := by
  simp only [ofFields, h, Bool.not_true, Bool.false_eq_true, if_false, Date.make?_self,
    TimeOfDay.make?_self, orOutOfRange, checkOffset, if_pos hrange, ok_bind, hyear, if_true,
    pure_eq_ok]

theorem toList_secondsText_append (t : Instant) (fraction zone : String) :
    (t.secondsText ++ fraction ++ zone).toList =
      (yearText t.date.year).toList ++ '-' :: ((padded 2 t.date.month).toList ++
        '-' :: ((padded 2 t.date.day).toList ++ 'T' :: ((padded 2 t.time.hour).toList ++
          ':' :: ((padded 2 t.time.minute).toList ++ ':' :: ((padded 2 t.time.second).toList ++
            (fraction.toList ++ zone.toList)))))) := by
  have hdash : "-".toList = ['-'] := rfl
  have hcolon : ":".toList = [':'] := rfl
  have hletter : "T".toList = ['T'] := rfl
  simp only [secondsText, String.toList_append, List.append_assoc, hdash, hcolon, hletter,
    List.cons_append, List.nil_append]

/-- An instant comes back from its exchanged form. -/
theorem ofLenient_zulu {t : Instant} (h : Date.supported t.date.year = true) :
    ofLenient t.zulu = .ok t := by
  have hzulu : "Z".toList = ['Z'] := rfl
  have hzone : zone (Text.trimStart ['Z']) = .ok (0, []) := by rfl
  have hdate (rest : List Char) :=
    dateFields_of_date true h ('T' :: rest) (isDigit_head?_cons (by decide) rest)
  have htime := timeFields_of_time true t.time (tellsFraction_fractionText t.time.nano) ['Z']
    (isDigit_head?_cons (by decide) []) (by rintro c ⟨⟩; decide)
  have hfields : ofFields (t.date.year, t.date.month, t.date.day)
      (t.time.hour, t.time.minute, t.time.second, t.time.nano) 0 = .ok (ofLocal t.date t.time 0) :=
    ofFields_eq_ok t.time h (by decide) (by rwa [ofLocal_zero])
  rw [ofLocal_zero] at hfields
  simp only [ofLenient, zulu, toList_secondsText_append, hzulu, hdate, htime, hzone, hfields, ok_bind,
    expect, beq_self_eq_true, Bool.true_or, if_true]
  rfl

end CaseRouting.Instant
