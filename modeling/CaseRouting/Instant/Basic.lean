/-!
# Instants

Calendar days, times of day to the nanosecond and instants in universal time. A local time is
turned into an instant by taking off its offset, which moves the date by at most one day.
-/

namespace CaseRouting

def isLeapYear (year : Int) : Bool := year % 4 == 0 && (year % 100 != 0 || year % 400 == 0)

def daysInMonth (year : Int) (month : Nat) : Nat :=
  if month = 2 then (if isLeapYear year then 29 else 28)
  else if month = 4 ∨ month = 6 ∨ month = 9 ∨ month = 11 then 30 else 31

theorem daysInMonth_pos (year : Int) (month : Nat) : 1 ≤ daysInMonth year month := by
  unfold daysInMonth
  repeat' split
  all_goals omega

/-- A day of the calendar, in years before and after the year zero. -/
structure Date where
  year : Int
  month : Nat
  day : Nat
  month_range : 1 ≤ month ∧ month ≤ 12
  day_range : 1 ≤ day ∧ day ≤ daysInMonth year month
  deriving DecidableEq

namespace Date

def make? (year : Int) (month day : Nat) : Option Date :=
  if hm : 1 ≤ month ∧ month ≤ 12 then
    if hd : 1 ≤ day ∧ day ≤ daysInMonth year month then some ⟨year, month, day, hm, hd⟩ else none
  else none

/-- The years a date may have. -/
def supported (year : Int) : Bool := -262143 ≤ year && year ≤ 262142

def next (d : Date) : Date :=
  if hd : d.day < daysInMonth d.year d.month then
    ⟨d.year, d.month, d.day + 1, d.month_range, by have := d.day_range; omega⟩
  else if hm : d.month < 12 then
    ⟨d.year, d.month + 1, 1, by have := d.month_range; omega, ⟨Nat.le_refl 1, daysInMonth_pos _ _⟩⟩
  else ⟨d.year + 1, 1, 1, by decide, ⟨Nat.le_refl 1, daysInMonth_pos _ _⟩⟩

def prev (d : Date) : Date :=
  if hd : 1 < d.day then
    ⟨d.year, d.month, d.day - 1, d.month_range, by have := d.day_range; omega⟩
  else if hm : 1 < d.month then
    ⟨d.year, d.month - 1, daysInMonth d.year (d.month - 1), by have := d.month_range; omega,
      ⟨daysInMonth_pos _ _, Nat.le_refl _⟩⟩
  else ⟨d.year - 1, 12, 31, by decide, ⟨by decide, by simp [daysInMonth]⟩⟩

end Date

/-- A time of day. The second 60 is a leap second. -/
structure TimeOfDay where
  hour : Nat
  minute : Nat
  second : Nat
  nano : Nat
  hour_lt : hour < 24
  minute_lt : minute < 60
  second_le : second ≤ 60
  nano_lt : nano < 1000000000
  deriving DecidableEq

namespace TimeOfDay

def make? (hour minute second nano : Nat) : Option TimeOfDay :=
  if h : hour < 24 ∧ minute < 60 ∧ second ≤ 60 ∧ nano < 1000000000 then
    some ⟨hour, minute, second, nano, h.1, h.2.1, h.2.2.1, h.2.2.2⟩
  else none

/-- The minutes since midnight. -/
def minutes (t : TimeOfDay) : Nat := t.hour * 60 + t.minute

/-- The time at another minute of the day, with the seconds kept. -/
def atMinute (t : TimeOfDay) (m : Nat) (h : m < 1440) : TimeOfDay :=
  { t with
    hour := m / 60
    minute := m % 60
    hour_lt := by omega
    minute_lt := by omega }

end TimeOfDay

/-- A point in time, as date and time of day in universal time. -/
structure Instant where
  date : Date
  time : TimeOfDay
  deriving DecidableEq

namespace Instant

/-- The date and time `offset` minutes later, for an offset of less than a day. -/
def shift (t : Instant) (offset : Int) : Instant :=
  let m := (t.time.minutes : Int) + offset
  if h : 0 ≤ m ∧ m < 1440 then ⟨t.date, t.time.atMinute m.toNat (by omega)⟩
  else if m < 0 then ⟨t.date.prev, t.time.atMinute ((m + 1440) % 1440).toNat (by omega)⟩
  else ⟨t.date.next, t.time.atMinute (m % 1440).toNat (by omega)⟩

/-- The instant at which clocks `offset` minutes ahead of universal time show this date and time. -/
def ofLocal (date : Date) (time : TimeOfDay) (offset : Int) : Instant :=
  shift ⟨date, time⟩ (-offset)

end Instant

end CaseRouting
