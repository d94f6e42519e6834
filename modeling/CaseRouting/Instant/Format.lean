import CaseRouting.Instant.Basic

/-!
# Instants as text

The RFC 3339 forms of an instant: with `Z`, as values are exchanged, and with `+00:00`, as cells are
stored. The fraction has as few of 0, 3, 6 or 9 digits as give the exact time, and a year outside
0 to 9999 has a sign.
-/

namespace CaseRouting

/-- The decimal digits of a number with zeros in front up to a width. -/
def padded (width n : Nat) : String :=
  let digits := Nat.toDigits 10 n
  .ofList (List.replicate (width - digits.length) '0' ++ digits)

namespace Instant

def yearText (year : Int) : String :=
  if 0 ≤ year ∧ year ≤ 9999 then padded 4 year.toNat
  else (if year < 0 then "-" else "+") ++ padded 4 year.natAbs

def fractionText (nano : Nat) : String :=
  if nano = 0 then ""
  else if nano % 1000000 = 0 then "." ++ padded 3 (nano / 1000000)
  else if nano % 1000 = 0 then "." ++ padded 6 (nano / 1000)
  else "." ++ padded 9 nano

/-- Date and time to the second, without a zone. -/
def secondsText (t : Instant) : String :=
  yearText t.date.year ++ "-" ++ padded 2 t.date.month ++ "-" ++ padded 2 t.date.day ++ "T" ++
    padded 2 t.time.hour ++ ":" ++ padded 2 t.time.minute ++ ":" ++ padded 2 t.time.second

/-- The exchanged form. -/
def zulu (t : Instant) : String := t.secondsText ++ fractionText t.time.nano ++ "Z"

/-- The stored form. -/
def stored (t : Instant) : String := t.secondsText ++ fractionText t.time.nano ++ "+00:00"

/-- The form at the head of a log line: always microseconds. -/
def logStamp (t : Instant) : String :=
  t.secondsText ++ "." ++ padded 6 (t.time.nano / 1000) ++ "Z"

end Instant

end CaseRouting
