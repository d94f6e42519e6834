import CaseRouting.Proofs.Instant.Exchanged

/-!
# Reported instants read back

A tracker reports an instant as its clocks show it, with their offset from universal time. The
reader of such reports takes the offset off again, with or without a colon between its hours and
minutes, and leaves the form with `Z` to the strict reader.
-/

namespace CaseRouting.Instant

open Text (numberOf isDigit_digitChar)

variable {t shown : Instant} {fraction : String} {minutes : ℤ}

/-! ## Offsets -/

/-- An offset as a sign, hours and minutes, with a separator between these two. -/
def offsetText (separator : String) (minutes : ℤ) : String :=
  (if minutes < 0 then "-" else "+") ++ padded 2 (minutes.natAbs / 60) ++ separator ++
    padded 2 (minutes.natAbs % 60)

theorem looseSeparator_append {separator : String} (h : separator = "" ∨ separator = ":") {c : Char}
    (hc : c.isDigit = true) (rest : List Char) :
    looseSeparator (separator.toList ++ c :: rest) = .ok (c :: rest) := by
  have hcolon : c ≠ ':' := by
    rintro rfl
    exact absurd hc (by decide)
  have hstop : (c :: rest).dropWhile (fun c => c == ':' || Text.isBlank c) = c :: rest :=
    List.dropWhile_cons_of_neg (by simp [hcolon, isBlank_of_isDigit hc])
  rcases h with rfl | rfl
  · exact congrArg Except.ok hstop
  · exact congrArg Except.ok hstop

theorem lastDigits_two (n : ℕ) :
    lastDigits 2 n = [(n / 10 % 10).digitChar, (n % 10).digitChar] := rfl

theorem not_six_le_digitChar {d : ℕ} (h : d < 6) : ¬ '6' ≤ d.digitChar := by
  interval_cases d <;> decide

theorem offsetAfterSign_append {separator : String} (h : separator = "" ∨ separator = ":")
    {hour minute : ℕ} (hhour : hour < 100) (hminute : minute < 60) :
    offsetAfterSign looseSeparator
        (lastDigits 2 hour ++ (separator.toList ++ lastDigits 2 minute)) =
      .ok (hour * 60 + minute, []) := by
  have hdigit (n : ℕ) : (n % 10).digitChar.isDigit = true :=
    isDigit_digitChar (Nat.mod_lt _ (by decide))
  have htens : ¬ '6' ≤ (minute / 10 % 10).digitChar := not_six_le_digitChar (by omega)
  have hhours : numberOf (lastDigits 2 hour) = hour := numberOf_lastDigits hhour
  have hminutes : numberOf (lastDigits 2 minute) = minute := numberOf_lastDigits (by omega)
  rw [lastDigits_two] at hhours hminutes
  simp only [offsetAfterSign, lastDigits_two, List.cons_append, List.nil_append, nextTwo, ok_bind,
    hdigit, Bool.and_self, Bool.not_true, Bool.false_eq_true, if_false,
    looseSeparator_append h (hdigit _), htens, hhours, hminutes, pure_eq_ok]

theorem offset_sign {cs rest : List Char} {n : ℕ}
    (h : offsetAfterSign looseSeparator cs = .ok (n, rest)) :
    offset false looseSeparator ('-' :: cs) = .ok (-(n : ℤ), rest) ∧
      offset false looseSeparator ('+' :: cs) = .ok ((n : ℤ), rest) := by
  constructor
  · rw [offset, h]
    rfl
  · rw [offset, h]
    rfl

/-- An offset is read back, with a colon or with nothing between its hours and minutes. -/
theorem offset_offsetText {separator : String} (h : separator = "" ∨ separator = ":")
    (hrange : -1440 < minutes ∧ minutes < 1440) :
    offset false looseSeparator (offsetText separator minutes).toList = .ok (minutes, []) := by
  have hhour : minutes.natAbs / 60 < 10 ^ 2 := by omega
  have hminute : minutes.natAbs % 60 < 60 := by omega
  have hread := offsetAfterSign_append h hhour hminute
  rw [← toList_padded two_pos hhour, ← toList_padded two_pos (hminute.trans (by decide))] at hread
  obtain ⟨hminus, hplus⟩ := offset_sign hread
  have hvalue : minutes.natAbs / 60 * 60 + minutes.natAbs % 60 = minutes.natAbs := by omega
  rw [hvalue] at hminus hplus
  have hsigns : "-".toList = ['-'] ∧ "+".toList = ['+'] := ⟨rfl, rfl⟩
  rw [offsetText]
  split_ifs with hneg
  · simp only [String.toList_append, List.append_assoc, hsigns, List.cons_append, List.nil_append,
      hminus]
    exact congrArg (fun m => Except.ok (m, [])) (by omega)
  · simp only [String.toList_append, List.append_assoc, hsigns, List.cons_append, List.nil_append,
      hplus]
    exact congrArg (fun m => Except.ok (m, [])) (by omega)

theorem exists_sign_of_offsetText (separator : String) (minutes : ℤ) :
    ∃ sign rest, (offsetText separator minutes).toList = sign :: rest ∧ sign.isDigit = false ∧
      sign ≠ '.' ∧ Text.isBlank sign = false := by
  simp only [offsetText, String.toList_append, List.append_assoc]
  split_ifs
  · exact ⟨'-', _, rfl, by decide, by decide, by decide⟩
  · exact ⟨'+', _, rfl, by decide, by decide, by decide⟩

/-! ## Reports -/

theorem ofTrackerForm_local (hsupported : Date.supported shown.date.year = true)
    (htells : TellsFraction shown.time.nano fraction) {zone : String}
    (hdigit : ∀ c ∈ zone.toList.head?, c.isDigit = false)
    (hpoint : ∀ c ∈ zone.toList.head?, c ≠ '.') :
    ofTrackerForm (shown.secondsText ++ fraction ++ zone) = (do
      let (minutes, cs) ← offset false looseSeparator (Text.trimStart zone.toList)
      if !cs.isEmpty then throw .trailing
      ofFields (shown.date.year, shown.date.month, shown.date.day)
        (shown.time.hour, shown.time.minute, shown.time.second, shown.time.nano) minutes) := by
  have hdate (rest : List Char) :=
    dateFields_of_date false hsupported ('T' :: rest) (isDigit_head?_cons (by decide) rest)
  have htime := timeFields_of_time false shown.time htells zone.toList hdigit hpoint
  have hliteral (rest : List Char) : literal false 'T' ('T' :: rest) = .ok rest :=
    literal_cons false (by decide)
  simp only [ofTrackerForm, toList_secondsText_append, hdate, htime, hliteral, ok_bind]

theorem supported_of_near {year other : ℤ} (h : 0 ≤ other ∧ other ≤ 9999)
    (hnear : other - 1 ≤ year ∧ year ≤ other + 1) : Date.supported year = true := by
  simp only [Date.supported, Bool.and_eq_true, decide_eq_true_eq]
  omega

/-- A local date and time with an offset is read as the instant that they denote. -/
theorem ofTrackerForm_offsetText (hyear : shown.HasFourDigitYear)
    (htells : TellsFraction shown.time.nano fraction) {separator : String}
    (h : separator = "" ∨ separator = ":") (hrange : -1440 < minutes ∧ minutes < 1440) :
    ofTrackerForm (shown.secondsText ++ fraction ++ offsetText separator minutes) =
      .ok (ofLocal shown.date shown.time minutes) := by
  have hsupported : Date.supported shown.date.year = true :=
    supported_of_near hyear (by omega)
  have hread : Date.supported (ofLocal shown.date shown.time minutes).date.year = true :=
    supported_of_near hyear (year_shift shown (-minutes))
  have hoffset := offset_offsetText h hrange
  obtain ⟨sign, rest, htext, hdigit, hpoint, hblank⟩ := exists_sign_of_offsetText separator minutes
  rw [ofTrackerForm_local hsupported htells, htext, trimStart_cons hblank, ← htext, hoffset, ok_bind]
  · exact ofFields_eq_ok shown.time hsupported hrange hread
  · rw [htext]
    exact isDigit_head?_cons hdigit rest
  · rw [htext]
    rintro c ⟨⟩
    exact hpoint

/-- With `Z` for its zone a text is no report, and the strict reader gives the instant. -/
theorem ofTracker?_zulu (hyear : t.HasFourDigitYear) (htells : TellsFraction t.time.nano fraction) :
    ofTracker? (t.secondsText ++ fraction ++ "Z") = some t := by
  have hdigit : ∀ c ∈ "Z".toList.head?, c.isDigit = false := by
    rintro c ⟨⟩
    decide
  have hpoint : ∀ c ∈ "Z".toList.head?, c ≠ '.' := by
    rintro c ⟨⟩
    decide
  have hreport : ofTrackerForm (t.secondsText ++ fraction ++ "Z") = .error .invalid := by
    rw [ofTrackerForm_local (supported_of_near hyear (by omega)) htells hdigit hpoint]
    rfl
  have hstrict : ofRfc3339 (t.secondsText ++ fraction ++ "Z") = .ok t := by
    rw [ofRfc3339_local hyear htells (by rfl) (by decide) hdigit hpoint, ofLocal_zero]
  rw [ofTracker?, hreport, hstrict]
  rfl

/-- The tracker's form of a local date and time: milliseconds, and no colon in the offset. -/
def reportText (shown : Instant) (minutes : ℤ) : String :=
  shown.secondsText ++ ("." ++ padded 3 (shown.time.nano / 1000000)) ++ offsetText "" minutes

/-- What the clocks of any offset show at an instant is read as that instant: from the tracker's
form, if there is nothing below its milliseconds, and from RFC 3339 forms with the offset or in
universal time, as long as the year that they tell has four digits. -/
theorem ofTracker?_of_shownAt (hrange : -1440 < minutes ∧ minutes < 1440)
    (hshown : ShownAt minutes t shown) (hyear : shown.HasFourDigitYear) :
    (t.time.nano % 1000000 = 0 → ofTracker? (reportText shown minutes) = some t) ∧
      (∀ fraction, TellsFraction t.time.nano fraction →
        ofTracker? (shown.secondsText ++ fraction ++ offsetText ":" minutes) = some t) ∧
      (t.HasFourDigitYear → ∀ fraction, TellsFraction t.time.nano fraction →
        ofTracker? (t.secondsText ++ fraction ++ "Z") = some t) := by
  have hnano := hshown.nano
  have hlocal := hshown.ofLocal_eq hrange
  refine ⟨fun hmillis => ?_, fun fraction htells => ?_, fun hyear fraction htells => ?_⟩
  · have htells : TellsFraction shown.time.nano ("." ++ padded 3 (shown.time.nano / 1000000)) :=
      .digits (by decide) (by decide) (by omega)
    have hread := ofTrackerForm_offsetText hyear htells (.inl rfl) hrange
    rw [ofTracker?, reportText, hread, hlocal]
  · rw [← hnano] at htells
    have hread := ofTrackerForm_offsetText hyear htells (.inr rfl) hrange
    rw [ofTracker?, hread, hlocal]
  · exact ofTracker?_zulu hyear htells

def newYearsEve : Instant where
  date := (startOfYear 2025).date.prev
  time := ⟨22, 45, 30, 250000000, by decide, by decide, by decide, by decide⟩

/-- The same time by clocks that are five and a half hours ahead. -/
def newYearsDay : Instant where
  date := (startOfYear 2025).date
  time := ⟨4, 15, 30, 250000000, by decide, by decide, by decide, by decide⟩

/-- The offset carries over the end of a day, a month and a year. -/
theorem ofTracker?_newYearsEve :
    ShownAt 330 newYearsEve newYearsDay ∧
      ofTracker? "2025-01-01T04:15:30.250+0530" = some newYearsEve ∧
      ofTracker? "2025-01-01T04:15:30.25+05:30" = some newYearsEve ∧
      ofTracker? "2024-12-31T22:45:30.250000Z" = some newYearsEve := by
  have hshown : ShownAt 330 newYearsEve newYearsDay := ⟨by decide +kernel, rfl, rfl⟩
  obtain ⟨hreport, hlocal, hzulu⟩ := ofTracker?_of_shownAt (by decide) hshown (by decide)
  have htext : reportText newYearsDay 330 = "2025-01-01T04:15:30.250+0530" := by decide +kernel
  have hlocalText : newYearsDay.secondsText ++ ("." ++ padded 2 25) ++ offsetText ":" 330 =
      "2025-01-01T04:15:30.25+05:30" := by decide +kernel
  have hzuluText : newYearsEve.secondsText ++ ("." ++ padded 6 250000) ++ "Z" =
      "2024-12-31T22:45:30.250000Z" := by decide +kernel
  refine ⟨hshown, ?_, ?_, ?_⟩
  · rw [← htext]
    exact hreport (by decide)
  · rw [← hlocalText]
    exact hlocal _ (.digits (by decide) (by decide) (by decide))
  · rw [← hzuluText]
    exact hzulu (by decide) _ (.digits (by decide) (by decide) (by decide))

end CaseRouting.Instant
