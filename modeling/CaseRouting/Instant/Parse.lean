import CaseRouting.Instant.Basic
import CaseRouting.Text.Blank
import CaseRouting.Text.Case
import CaseRouting.Text.Natural

/-!
# Reading instants

Three readers. `Instant.ofRfc3339` is strict: fixed places, as cells are stored. `Instant.ofLenient`
takes numbers of any width, blanks between them and a named zone, as exchanged values may have.
`Instant.ofTracker?` reads the issue tracker's form, whose offset has no colon, and else the strict
one. Each returns the instant that the local date and time denote at their offset.
-/

namespace CaseRouting

inductive InstantError where
  | outOfRange
  | impossible
  | invalid
  | tooShort
  | trailing
  deriving DecidableEq

def InstantError.message : InstantError → String
  | .outOfRange => "input is out of range"
  | .impossible => "no possible date and time matching input"
  | .invalid => "input contains invalid characters"
  | .tooShort => "premature end of input"
  | .trailing => "trailing input"

namespace Instant

open Text (digitValue numberOf)

def expect (ok : Char → Bool) : List Char → Except InstantError (List Char)
  | [] => .error .tooShort
  | c :: rest => if ok c then .ok rest else .error .invalid

/-- One to `most` digits. -/
def number (most : Nat) (cs : List Char) : Except InstantError (Nat × List Char) :=
  match cs with
  | [] => .error .tooShort
  | c :: _ =>
    if c.isDigit then
      let digits := (cs.take most).takeWhile Char.isDigit
      .ok (numberOf digits, cs.drop digits.length)
    else .error .invalid

/-- The digits after a decimal point as nanoseconds; digits after the ninth are dropped. -/
def fraction (cs : List Char) : Except InstantError (Nat × List Char) := do
  let (n, _) ← number 9 cs
  let count := ((cs.take 9).takeWhile Char.isDigit).length
  pure (n * Nat.pow 10 (9 - count), cs.dropWhile Char.isDigit)

/-- A fraction, if a decimal point comes next. -/
def optionalFraction : List Char → Except InstantError (Nat × List Char)
  | '.' :: rest => fraction rest
  | cs => .ok (0, cs)

/-- The next two characters, when at least two bytes are left. -/
def nextTwo : List Char → Except InstantError (Char × Char × List Char)
  | a :: b :: rest => .ok (a, b, rest)
  | [a] => .error (if a.utf8Size = 1 then .tooShort else .invalid)
  | [] => .error .tooShort

/-- Hours, a separator and minutes after a sign, as minutes. -/
def offsetAfterSign (separator : List Char → Except InstantError (List Char)) (cs : List Char) :
    Except InstantError (Nat × List Char) := do
  let (a, b, rest) ← nextTwo cs
  if !(a.isDigit && b.isDigit) then throw .invalid
  let rest ← separator rest
  let (c, d, rest) ← nextTwo rest
  if !(c.isDigit && d.isDigit) then throw .invalid
  if '6' ≤ c then throw .outOfRange
  pure (numberOf [a, b] * 60 + numberOf [c, d], rest)

/-- A signed offset in minutes; `Z` stands for none where `zulu` says so. -/
def offset (zulu : Bool) (separator : List Char → Except InstantError (List Char)) :
    List Char → Except InstantError (Int × List Char)
  | [] => .error .tooShort
  | c :: rest =>
    if zulu && (c = 'Z' || c = 'z') then .ok (0, rest)
    else if c = '+' then do
      let (n, rest) ← offsetAfterSign separator rest
      pure ((n : Int), rest)
    else if c = '-' || c = '−' then do
      let (n, rest) ← offsetAfterSign separator rest
      pure (-(n : Int), rest)
    else .error .invalid

/-- An offset of a day or more denotes no time zone. -/
def checkOffset (minutes : Int) : Except InstantError Int :=
  if -1440 < minutes ∧ minutes < 1440 then .ok minutes else .error .outOfRange

def orOutOfRange {α : Type} : Option α → Except InstantError α
  | some a => .ok a
  | none => .error .outOfRange

/-- A digit at a fixed place. -/
def digit : List Char → Except InstantError (Nat × List Char)
  | c :: rest => if c.isDigit then .ok (digitValue c, rest) else .error .invalid
  | [] => .error .invalid

def twoDigits (cs : List Char) : Except InstantError (Nat × List Char) := do
  let (a, cs) ← digit cs
  let (b, cs) ← digit cs
  pure (a * 10 + b, cs)

def byteLength : List Char → Nat
  | [] => 0
  | c :: cs => c.utf8Size + byteLength cs

/-- The strict reader: `YYYY-MM-DDThh:mm:ss`, a fraction, and `Z` or `±hh:mm`, and nothing else. -/
def ofRfc3339 (s : String) : Except InstantError Instant := do
  let cs := s.toList
  if byteLength cs < 19 then throw .tooShort
  let (century, cs) ← twoDigits cs
  let (year, cs) ← twoDigits cs
  let cs ← expect (· == '-') cs
  let (month, cs) ← twoDigits cs
  let cs ← expect (· == '-') cs
  let (day, cs) ← twoDigits cs
  let date ← orOutOfRange (Date.make? ((century * 100 + year : Nat) : Int) month day)
  let cs ← expect (fun c => c == 'T' || c == 't' || c == ' ') cs
  let (hour, cs) ← twoDigits cs
  let cs ← expect (· == ':') cs
  let (minute, cs) ← twoDigits cs
  let cs ← expect (· == ':') cs
  let (second, cs) ← twoDigits cs
  let (nano, cs) ← optionalFraction cs
  let time ← orOutOfRange (TimeOfDay.make? hour minute second nano)
  let (minutes, cs) ← offset true (expect (· == ':')) cs
  if !cs.isEmpty then throw .trailing
  let minutes ← checkOffset minutes
  pure (ofLocal date time minutes)

/-- A year with a sign has any number of digits, one without has at most four. -/
def signedYear (cs : List Char) : Except InstantError (Int × List Char) := do
  match Text.trimStart cs with
  | '-' :: rest =>
    let (n, cs) ← number rest.length rest
    if Nat.pow 2 31 < n then throw .outOfRange
    pure (-(n : Int), cs)
  | '+' :: rest =>
    let (n, cs) ← number rest.length rest
    if Nat.pow 2 31 ≤ n then throw .outOfRange
    pure ((n : Int), cs)
  | cs =>
    let (n, cs) ← number 4 cs
    pure ((n : Int), cs)

/-- One or two digits after any blanks, within bounds. -/
def field (low high : Nat) (cs : List Char) : Except InstantError (Nat × List Char) := do
  let (n, cs) ← number 2 (Text.trimStart cs)
  if low ≤ n ∧ n ≤ high then pure (n, cs) else throw .outOfRange

/-- Blanks before a literal character are skipped where `blanks` says so. -/
def literal (blanks : Bool) (c : Char) (cs : List Char) : Except InstantError (List Char) :=
  expect (· == c) (if blanks then Text.trimStart cs else cs)

/-- Year, month and day. -/
def dateFields (blanks : Bool) (cs : List Char) :
    Except InstantError ((Int × Nat × Nat) × List Char) := do
  let (year, cs) ← signedYear cs
  let cs ← literal blanks '-' cs
  let (month, cs) ← field 1 12 cs
  let cs ← literal blanks '-' cs
  let (day, cs) ← field 1 31 cs
  pure ((year, month, day), cs)

/-- Hour, minute, second and nanosecond. -/
def timeFields (blanks : Bool) (cs : List Char) :
    Except InstantError ((Nat × Nat × Nat × Nat) × List Char) := do
  let (hour, cs) ← field 0 23 cs
  let cs ← literal blanks ':' cs
  let (minute, cs) ← field 0 59 cs
  let cs ← literal blanks ':' cs
  let (second, cs) ← field 0 60 cs
  let (nano, cs) ← optionalFraction cs
  pure ((hour, minute, second, nano), cs)

/-- The instant of fields that were read one by one. -/
def ofFields (date : Int × Nat × Nat) (time : Nat × Nat × Nat × Nat) (minutes : Int) :
    Except InstantError Instant := do
  if !Date.supported date.1 then throw .outOfRange
  let day ← orOutOfRange (Date.make? date.1 date.2.1 date.2.2)
  let clock ← orOutOfRange (TimeOfDay.make? time.1 time.2.1 time.2.2.1 time.2.2.2)
  let minutes ← checkOffset minutes
  let t := ofLocal day clock minutes
  if Date.supported t.date.year then pure t else throw .impossible

/-- Hours and minutes may have colons or blanks between them, or nothing. -/
def looseSeparator (cs : List Char) : Except InstantError (List Char) :=
  .ok (cs.dropWhile fun c => c == ':' || Text.isBlank c)

/-- Reads `UTC` in any case of letters, or an offset. -/
def zone (cs : List Char) : Except InstantError (Int × List Char) :=
  if (cs.take 3).map Text.asciiLowerChar = ['u', 't', 'c'] then .ok (0, cs.drop 3)
  else offset true looseSeparator cs

/-- The lenient reader. -/
def ofLenient (s : String) : Except InstantError Instant := do
  let (date, cs) ← dateFields true s.toList
  let cs ← expect (fun c => c == 'T' || c == 't' || c == ' ') cs
  let (time, cs) ← timeFields true cs
  let (minutes, cs) ← zone (Text.trimStart cs)
  if !(Text.trimStart cs).isEmpty then throw .trailing
  ofFields date time minutes

/-- The issue tracker's own form, such as `2025-01-02T03:04:05.000+0000`. -/
def ofTrackerForm (s : String) : Except InstantError Instant := do
  let (date, cs) ← dateFields false s.toList
  let cs ← literal false 'T' cs
  let (time, cs) ← timeFields false cs
  let (minutes, cs) ← offset false looseSeparator (Text.trimStart cs)
  if !cs.isEmpty then throw .trailing
  ofFields date time minutes

/-- The tracker's form or else the strict one; any other text is no time. -/
def ofTracker? (s : String) : Option Instant :=
  match ofTrackerForm s with
  | .ok t => some t
  | .error _ => (ofRfc3339 s).toOption

end Instant

end CaseRouting
