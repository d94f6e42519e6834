import CaseRouting.Data.Doc
import CaseRouting.Instant.Basic
import CaseRouting.Text.Natural

/-!
# Scalars of settings text

Numbers and times as they stand in settings text, written without quotes. Underscores may separate
digits, and only digits.
-/

namespace CaseRouting.Toml

open Text (digitIn?)

/-- Digits of a base, without the underscores between them. -/
def digits? (base : Nat) : List Char → Option (List Nat)
  | [] => none
  | [c] => (digitIn? base c).map fun d => [d]
  | c :: '_' :: rest => do
    let d ← digitIn? base c
    let ds ← digits? base rest
    pure (d :: ds)
  | c :: rest => do
    let d ← digitIn? base c
    let ds ← digits? base rest
    pure (d :: ds)

def valueOf (base : Nat) (ds : List Nat) : Nat := ds.foldl (fun n d => n * base + d) 0

/-- Decimal digits without a zero in front. -/
def plainDigits? (cs : List Char) : Option (List Nat) := do
  let ds ← digits? 10 cs
  if 1 < ds.length && ds.head? = some 0 then none else some ds

/-- A sign, if there is one; whether it is a minus; and the text after it. -/
def sign (cs : List Char) : Bool × Bool × List Char :=
  match cs with
  | '-' :: rest => (true, true, rest)
  | '+' :: rest => (true, false, rest)
  | _ => (false, false, cs)

/-- Whole numbers are held in 128 bits. -/
def wholeNumber (n : Int) : Doc :=
  .number (if -(Int.pow 2 127) ≤ n ∧ n < Int.pow 2 128 then some (.whole n) else none)

def whole? (cs : List Char) : Option Doc :=
  match cs with
  | '0' :: 'x' :: rest => (digits? 16 rest).map fun ds => wholeNumber (valueOf 16 ds)
  | '0' :: 'o' :: rest => (digits? 8 rest).map fun ds => wholeNumber (valueOf 8 ds)
  | '0' :: 'b' :: rest => (digits? 2 rest).map fun ds => wholeNumber (valueOf 2 ds)
  | _ =>
    let (_, below, rest) := sign cs
    (plainDigits? rest).map fun ds =>
      wholeNumber (if below then -(valueOf 10 ds : Int) else valueOf 10 ds)

/-- The number `digits * 10 ^ power`. -/
def realOf (below : Bool) (digits : Nat) (power : Int) : Double :=
  if digits = 0 then .finite below 0 (-1074)
  else if 400 < power then .infinite below
  else if power < -(Double.decimalLength digits : Int) - 400 then .finite below 0 (-1074)
  else if power < 0 then Double.ofRatio below digits (Nat.pow 10 (-power).toNat)
  else Double.ofRatio below (digits * Nat.pow 10 power.toNat) 1

def real? (cs : List Char) : Option Double :=
  let (_, below, rest) := sign cs
  if rest = "inf".toList then some (.infinite below)
  else if rest = "nan".toList then some .nan
  else do
    let mantissa := rest.takeWhile fun c => c != 'e' && c != 'E'
    let mark := rest.drop mantissa.length
    let before := mantissa.takeWhile (· ≠ '.')
    let after := mantissa.drop before.length
    if mark.isEmpty && after.isEmpty then none
    let ds ← plainDigits? before
    let fraction ← if after.isEmpty then some [] else digits? 10 (after.drop 1)
    let power : Int ← if mark.isEmpty then some 0 else do
      let (_, negative, digits) := sign (mark.drop 1)
      let n ← digits? 10 digits
      pure (if negative then -(valueOf 10 n : Int) else valueOf 10 n)
    pure (realOf below (valueOf 10 (ds ++ fraction)) (power - fraction.length))

/-! ## Times -/

/-- A number of exactly so many digits, and the text after it. -/
def fixed? (count : Nat) (cs : List Char) : Option (Nat × List Char) :=
  let ds := cs.take count
  if ds.length = count && ds.all Char.isDigit then
    some (Text.numberOf ds, cs.drop count)
  else none

def literal? (c : Char) : List Char → Option (List Char)
  | d :: rest => if c = d then some rest else none
  | [] => none

/-- The text after a date. -/
def date? (cs : List Char) : Option (List Char) := do
  let (year, cs) ← fixed? 4 cs
  let cs ← literal? '-' cs
  let (month, cs) ← fixed? 2 cs
  let cs ← literal? '-' cs
  let (day, cs) ← fixed? 2 cs
  let _ ← Date.make? (year : Int) month day
  pure cs

/-- The text after hours and minutes, and after seconds and their fraction if they are given. -/
def time? (cs : List Char) : Option (List Char) := do
  let (hour, cs) ← fixed? 2 cs
  let cs ← literal? ':' cs
  let (minute, cs) ← fixed? 2 cs
  if 24 ≤ hour || 60 ≤ minute then none
  match cs with
  | ':' :: rest => do
    let (second, cs) ← fixed? 2 rest
    if 60 < second then none
    match cs with
    | '.' :: rest =>
      if (rest.takeWhile Char.isDigit).isEmpty then none else some (rest.dropWhile Char.isDigit)
    | _ => some cs
  | _ => some cs

/-- Nothing, or an offset and nothing more. -/
def isZone (cs : List Char) : Bool :=
  match cs with
  | [] => true
  | ['Z'] => true
  | ['z'] => true
  | c :: rest =>
    (c == '+' || c == '-') &&
      match fixed? 2 rest with
      | some (hour, ':' :: more) =>
        match fixed? 2 more with
        | some (minute, []) => hour < 24 && minute < 60
        | _ => false
      | _ => false

/-- A date, a time, or both with or without an offset. -/
def isTime (cs : List Char) : Bool :=
  match date? cs with
  | some [] => true
  | some (c :: rest) => (c == 'T' || c == 't' || c == ' ') && ((time? rest).any isZone)
  | none => time? cs == some []

/-- A time counts as an object of one member. -/
def timeDoc (cs : List Char) : Doc :=
  .ofMembers [("$__toml_private_datetime", .ofText (.ofList cs))]

/-- The value of an unquoted word. -/
def scalar? (cs : List Char) : Option Doc :=
  if cs = "true".toList then some (.bool true)
  else if cs = "false".toList then some (.bool false)
  else if isTime cs then some (timeDoc cs)
  else match whole? cs with
    | some d => some d
    | none => (real? cs).map fun r => .number (some (.real r))

end CaseRouting.Toml
