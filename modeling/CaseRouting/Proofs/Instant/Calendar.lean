import CaseRouting.Instant.Basic
import Mathlib.Algebra.BigOperators.Intervals
import Mathlib.Order.SuccPred.IntervalSucc
import Mathlib.Tactic

/-!
# Counting days and minutes

The days of the calendar are numbered one after the other, and so are the minutes. To shift an
instant adds to the number of its minute, and no other instant has the same minute, second and
nanosecond. So clocks at an offset show one local date and time at each instant, and the instant is
told by counting back.
-/

namespace CaseRouting

/-! ## Years and months -/

/-- The days from the beginning of the year 1 to that of another year: 365 for each year, and a leap
day for every fourth one, but for centuries only if they are a multiple of 400 years. -/
def daysBeforeYear (year : ℤ) : ℤ :=
  365 * (year - 1) + (year - 1) / 4 - (year - 1) / 100 + (year - 1) / 400

def daysBeforeMonth (year : ℤ) (month : ℕ) : ℤ := ∑ m ∈ Finset.Ico 1 month, (daysInMonth year m : ℤ)

theorem daysBeforeMonth_succ (year : ℤ) {month : ℕ} (h : 1 ≤ month) :
    daysBeforeMonth year (month + 1) = daysBeforeMonth year month + daysInMonth year month := by
  rw [daysBeforeMonth, Finset.sum_Ico_succ_top h, daysBeforeMonth]

theorem monotone_daysBeforeMonth (year : ℤ) : Monotone (daysBeforeMonth year) := by
  refine monotone_nat_of_le_succ fun month => ?_
  rcases Nat.eq_zero_or_pos month with rfl | hmonth
  · rfl
  · rw [daysBeforeMonth_succ year hmonth]
    omega

theorem daysBeforeMonth_nonneg (year : ℤ) (month : ℕ) : 0 ≤ daysBeforeMonth year month :=
  monotone_daysBeforeMonth year (Nat.zero_le month)

theorem isLeapYear_iff {year : ℤ} :
    isLeapYear year = true ↔ year % 4 = 0 ∧ (year % 100 ≠ 0 ∨ year % 400 = 0) := by
  simp [isLeapYear]

/-- The months of a year have as many days as lie between the beginnings of two years. -/
theorem daysBeforeYear_succ (year : ℤ) :
    daysBeforeYear (year + 1) = daysBeforeYear year + daysBeforeMonth year 13 := by
  have hmonths : daysBeforeMonth year 13 = if isLeapYear year then 366 else 365 := by
    simp only [daysBeforeMonth, daysInMonth]
    split_ifs <;> decide
  rw [hmonths, daysBeforeYear, daysBeforeYear]
  split_ifs with hleap
  all_goals
    rw [isLeapYear_iff] at hleap
    omega

theorem monotone_daysBeforeYear : Monotone daysBeforeYear := by
  refine monotone_int_of_le_succ fun year => ?_
  have := daysBeforeMonth_nonneg year 13
  rw [daysBeforeYear_succ]
  omega

theorem eq_of_mem_block {ι : Type} [LinearOrder ι] [SuccOrder ι] {start : ι → ℤ}
    (h : Monotone start) {a b : ι} {n : ℤ} (ha : start a < n ∧ n ≤ start (Order.succ a))
    (hb : start b < n ∧ n ≤ start (Order.succ b)) : a = b := by
  by_contra hab
  exact Set.disjoint_left.mp (h.pairwise_disjoint_on_Ioc_succ hab) ha hb

/-! ## Days -/

namespace Date

variable {d e : Date}

/-- The first of January of the year 1 has the number 1. -/
def dayNumber (d : Date) : ℤ := daysBeforeYear d.year + daysBeforeMonth d.year d.month + d.day

theorem day_mem_month (d : Date) :
    daysBeforeMonth d.year d.month < daysBeforeMonth d.year d.month + d.day ∧
      daysBeforeMonth d.year d.month + d.day ≤ daysBeforeMonth d.year (d.month + 1) := by
  have hday := d.day_range
  rw [daysBeforeMonth_succ d.year d.month_range.1]
  omega

theorem day_mem_year (d : Date) :
    daysBeforeYear d.year < d.dayNumber ∧ d.dayNumber ≤ daysBeforeYear (d.year + 1) := by
  have hmonth := d.day_mem_month
  have hyear : daysBeforeMonth d.year (d.month + 1) ≤ daysBeforeMonth d.year 13 :=
    monotone_daysBeforeMonth d.year (Nat.succ_le_succ d.month_range.2)
  have hpos := daysBeforeMonth_nonneg d.year d.month
  rw [daysBeforeYear_succ, dayNumber]
  omega

theorem dayNumber_injective (h : d.dayNumber = e.dayNumber) : d = e := by
  have hyear : d.year = e.year :=
    eq_of_mem_block monotone_daysBeforeYear d.day_mem_year (h ▸ e.day_mem_year)
  rcases d with ⟨year, month, day, hm, hd⟩
  rcases e with ⟨year', month', day', hm', hd'⟩
  obtain rfl : year = year' := hyear
  have hdays : daysBeforeMonth year month + day = daysBeforeMonth year month' + day' := by
    simp only [dayNumber] at h
    omega
  have hmonth : month = month' :=
    eq_of_mem_block (monotone_daysBeforeMonth year) (day_mem_month ⟨year, month, day, hm, hd⟩)
      (hdays ▸ day_mem_month ⟨year, month', day', hm', hd'⟩)
  subst hmonth
  obtain rfl : day = day' := by omega
  rfl

/-- A year follows the last day of the December before it. -/
theorem daysBeforeYear_add_one (year : ℤ) :
    daysBeforeYear (year + 1) = daysBeforeYear year + daysBeforeMonth year 12 + 31 := by
  have hdecember : daysBeforeMonth year 13 = daysBeforeMonth year 12 + 31 :=
    daysBeforeMonth_succ year (by decide)
  rw [daysBeforeYear_succ, hdecember]
  omega

theorem dayNumber_next (d : Date) : d.next.dayNumber = d.dayNumber + 1 := by
  have hday := d.day_range
  have hmonth := d.month_range
  unfold next
  split_ifs with hd hm
  · simp only [dayNumber]
    omega
  · simp only [dayNumber, daysBeforeMonth_succ d.year hmonth.1]
    omega
  · have hdecember : d.month = 12 := by omega
    have hlast : daysInMonth d.year d.month = 31 := by rw [hdecember]; rfl
    have hjanuary : daysBeforeMonth (d.year + 1) 1 = 0 := rfl
    simp only [dayNumber, daysBeforeYear_add_one, hjanuary, hdecember]
    omega

theorem dayNumber_prev (d : Date) : d.prev.dayNumber = d.dayNumber - 1 := by
  have hday := d.day_range
  have hmonth := d.month_range
  unfold prev
  split_ifs with hd hm
  · simp only [dayNumber]
    omega
  · have hbefore := daysBeforeMonth_succ d.year (show 1 ≤ d.month - 1 by omega)
    rw [Nat.sub_add_cancel hmonth.1] at hbefore
    simp only [dayNumber]
    omega
  · have hjanuary : d.month = 1 := by omega
    have hfirst : daysBeforeMonth d.year 1 = 0 := rfl
    have hyear := daysBeforeYear_add_one (d.year - 1)
    rw [sub_add_cancel] at hyear
    simp only [dayNumber, hjanuary, hfirst, hyear]
    omega

theorem year_next (d : Date) : d.year ≤ d.next.year ∧ d.next.year ≤ d.year + 1 := by
  unfold next
  split_ifs <;> simp

theorem year_prev (d : Date) : d.year - 1 ≤ d.prev.year ∧ d.prev.year ≤ d.year := by
  unfold prev
  split_ifs <;> simp

end Date

/-! ## Minutes -/

namespace TimeOfDay

theorem minutes_lt (t : TimeOfDay) : t.minutes < 1440 := by
  have := t.hour_lt
  have := t.minute_lt
  rw [minutes]
  omega

@[simp] theorem minutes_atMinute (t : TimeOfDay) {m : ℕ} (h : m < 1440) :
    (t.atMinute m h).minutes = m := by
  simp only [minutes, atMinute]
  omega

theorem eq_of_minutes_eq {t u : TimeOfDay} (hminutes : t.minutes = u.minutes)
    (hsecond : t.second = u.second) (hnano : t.nano = u.nano) : t = u := by
  rcases t with ⟨hour, minute, second, nano, hhour, hminute, hs, hn⟩
  rcases u with ⟨hour', minute', second', nano', hhour', hminute', hs', hn'⟩
  simp only [minutes] at hminutes
  obtain rfl : hour = hour' := by omega
  obtain rfl : minute = minute' := by omega
  obtain rfl : second = second' := hsecond
  obtain rfl : nano = nano' := hnano
  rfl

end TimeOfDay

namespace Instant

variable {t u v : Instant} {offset : ℤ}

/-- The number of the minute of a date and time, counted from the day before the year 1. -/
def minuteNumber (t : Instant) : ℤ := t.date.dayNumber * 1440 + t.time.minutes

/-- Clocks at an offset of so many minutes show a local date and time at an instant. -/
structure ShownAt (offset : ℤ) (t shown : Instant) : Prop where
  minutes : shown.minuteNumber = t.minuteNumber + offset
  second : shown.time.second = t.time.second
  nano : shown.time.nano = t.time.nano

theorem shownAt_shift (t : Instant) (h : -1440 < offset ∧ offset < 1440) :
    ShownAt offset t (t.shift offset) := by
  have hminutes := t.time.minutes_lt
  dsimp only [shift]
  split_ifs with hsame hbefore
  · refine ⟨?_, rfl, rfl⟩
    simp only [minuteNumber, TimeOfDay.minutes_atMinute]
    omega
  · refine ⟨?_, rfl, rfl⟩
    simp only [minuteNumber, TimeOfDay.minutes_atMinute, Date.dayNumber_prev]
    omega
  · refine ⟨?_, rfl, rfl⟩
    simp only [minuteNumber, TimeOfDay.minutes_atMinute, Date.dayNumber_next]
    omega

theorem ShownAt.symm (h : ShownAt offset t u) : ShownAt (-offset) u t :=
  ⟨by rw [h.minutes]; omega, h.second.symm, h.nano.symm⟩

theorem ShownAt.unique (hu : ShownAt offset t u) (hv : ShownAt offset t v) : u = v := by
  have hminutes : u.minuteNumber = v.minuteNumber := hu.minutes.trans hv.minutes.symm
  have hlt := u.time.minutes_lt
  have hlt' := v.time.minutes_lt
  simp only [minuteNumber] at hminutes
  have hdate : u.date = v.date := Date.dayNumber_injective (by omega)
  have htime : u.time = v.time := TimeOfDay.eq_of_minutes_eq (by omega)
    (hu.second.trans hv.second.symm) (hu.nano.trans hv.nano.symm)
  rcases u with ⟨date, time⟩
  rcases v with ⟨date', time'⟩
  exact congrArg₂ Instant.mk hdate htime

/-- A local date and time denotes the one instant at which it is shown. -/
theorem ShownAt.ofLocal_eq (h : ShownAt offset t u) (hoffset : -1440 < offset ∧ offset < 1440) :
    ofLocal u.date u.time offset = t :=
  (shownAt_shift u (show -1440 < -offset ∧ -offset < 1440 by omega)).unique h.symm

theorem ofLocal_zero (date : Date) (time : TimeOfDay) : ofLocal date time 0 = ⟨date, time⟩ := by
  have hshown : ShownAt 0 ⟨date, time⟩ ⟨date, time⟩ := ⟨(add_zero _).symm, rfl, rfl⟩
  exact hshown.ofLocal_eq (by decide)

theorem year_shift (t : Instant) (offset : ℤ) :
    t.date.year - 1 ≤ (t.shift offset).date.year ∧ (t.shift offset).date.year ≤ t.date.year + 1 := by
  have hnext := t.date.year_next
  have hprev := t.date.year_prev
  dsimp only [shift]
  split_ifs <;> simp only <;> omega

end Instant

end CaseRouting
