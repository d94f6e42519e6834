/-!
# Binary floating point

The numbers with a 53 bit mantissa, as exact data: every operation is done on a quotient of naturals
and rounded once, to the nearest number and to the even one of two nearest. The decimal text of a
number is the shortest one that reads back, or one with a fixed count of digits.
-/

namespace CaseRouting

/-- A finite number is `mantissa * 2 ^ exponent`. -/
inductive Double where
  | finite (negative : Bool) (mantissa : Nat) (exponent : Int)
  | infinite (negative : Bool)
  | nan
  deriving DecidableEq

namespace Double

/-- The quotient by `2 ^ e`, as numerator and denominator. -/
def scaled (num den : Nat) (e : Int) : Nat × Nat :=
  if e < 0 then (num * Nat.pow 2 (-e).toNat, den) else (num, den * Nat.pow 2 e.toNat)

/-- The nearest natural to a quotient, the even one of two nearest. -/
def roundToEven (num den : Nat) : Nat :=
  let q := num / den
  let r := 2 * (num % den)
  if r < den then q else if den < r then q + 1 else if q % 2 = 0 then q else q + 1

/-- The nearest number to a quotient of naturals. -/
def ofRatio (negative : Bool) (num den : Nat) : Double :=
  if num = 0 then .finite negative 0 (-1074)
  else
    let guess : Int := max (-1074) ((num.log2 : Int) - den.log2 - 53)
    let first := scaled num den guess
    let e := if Nat.pow 2 53 ≤ first.1 / first.2 then guess + 1 else guess
    let parts := scaled num den e
    let m := roundToEven parts.1 parts.2
    let (m, e) := if m = Nat.pow 2 53 then (Nat.pow 2 52, e + 1) else (m, e)
    if 971 < e then .infinite negative else .finite negative m e

def ofNat (n : Nat) : Double := ofRatio false n 1

/-- The size of a finite number as a quotient. -/
def ratio (mantissa : Nat) (exponent : Int) : Nat × Nat :=
  if exponent < 0 then (mantissa, Nat.pow 2 (-exponent).toNat)
  else (mantissa * Nat.pow 2 exponent.toNat, 1)

/-- The number times `10 ^ k`, with the power rounded first. -/
def timesPower (d : Double) (k : Nat) : Double :=
  match d, ofNat (Nat.pow 10 k) with
  | .finite s m e, .finite _ m' e' =>
    let a := ratio m e
    let b := ratio m' e'
    ofRatio s (a.1 * b.1) (a.2 * b.2)
  | .finite s _ _, _ => .infinite s
  | d, _ => d

/-- The number over `10 ^ k`, with the power rounded first. -/
def overPower (d : Double) (k : Nat) : Double :=
  match d, ofNat (Nat.pow 10 k) with
  | .finite s m e, .finite _ m' e' =>
    let a := ratio m e
    let b := ratio m' e'
    ofRatio s (a.1 * b.2) (a.2 * b.1)
  | .finite s _ _, _ => .finite s 0 (-1074)
  | d, _ => d

def negated : Double → Double
  | .finite s m e => .finite (!s) m e
  | .infinite s => .infinite (!s)
  | .nan => .nan

def decimalLength (n : Nat) : Nat := (Nat.toDigits 10 n).length

/-- The exponent `k` for which a positive quotient is at least `10 ^ (k - 1)` and below `10 ^ k`. -/
def decimalExponent (num den : Nat) : Int :=
  if den ≤ num then decimalLength (num / den)
  else 1 - (decimalLength ((den - 1) / num) : Int)

/-- The quotient over `10 ^ k`. -/
def overTen (num den : Nat) (k : Int) : Nat × Nat :=
  if k < 0 then (num * Nat.pow 10 (-k).toNat, den) else (num, den * Nat.pow 10 k.toNat)

/-- A decimal number `digits * 10 ^ exponent`. -/
structure Decimal where
  digits : Nat
  exponent : Int
  deriving DecidableEq

def Decimal.toDouble (d : Decimal) : Double :=
  if d.exponent < 0 then ofRatio false d.digits (Nat.pow 10 (-d.exponent).toNat)
  else ofRatio false (d.digits * Nat.pow 10 d.exponent.toNat) 1

/-- The nearer of the two neighbours with this exponent that reads back as the number. -/
def readsBackAt (value : Double) (num den : Nat) (exponent : Int) : Option Decimal :=
  let parts := overTen num den exponent
  let low : Decimal := ⟨parts.1 / parts.2, exponent⟩
  let high : Decimal := ⟨parts.1 / parts.2 + 1, exponent⟩
  let twice := 2 * (parts.1 % parts.2)
  let lowFirst := twice < parts.2 || (twice == parts.2 && low.digits % 2 == 0)
  let (a, b) := if lowFirst then (low, high) else (high, low)
  if a.toDouble = value then some a else if b.toDouble = value then some b else none

def shortestFrom (value : Double) (num den : Nat) (exponent : Int) : Nat → Decimal
  | 0 => ⟨(overTen num den exponent).1 / (overTen num den exponent).2, exponent⟩
  | fuel + 1 =>
    match readsBackAt value num den exponent with
    | some d => d
    | none => shortestFrom value num den (exponent - 1) fuel

/-- The shortest decimal that reads back as a positive number. -/
def shortest (mantissa : Nat) (exponent : Int) : Decimal :=
  let parts := ratio mantissa exponent
  shortestFrom (.finite false mantissa exponent) parts.1 parts.2
    (decimalExponent parts.1 parts.2 - 1) 17

/-- The digits without zeros at their end. -/
def Decimal.significant (d : Decimal) : List Char :=
  ((Nat.toDigits 10 d.digits).reverse.dropWhile (· == '0')).reverse

/-- The place of the decimal point, counted from the first digit. -/
def Decimal.point (d : Decimal) : Int := (decimalLength d.digits : Int) + d.exponent

/-- All digits in their places, with a decimal point and a digit after it. -/
def positional (digits : List Char) (point : Int) : String :=
  let zeros (n : Int) := List.replicate n.toNat '0'
  if point ≤ 0 then .ofList ('0' :: '.' :: zeros (-point) ++ digits)
  else
    let before := digits.take point.toNat ++ zeros (point - digits.length)
    let after := digits.drop point.toNat
    .ofList (before ++ '.' :: if after.isEmpty then ['0'] else after)

/-- One digit, the others after a point, and the power of ten with a sign and at least two digits.
-/
def scientific (keepPoint : Bool) (digits : List Char) (point : Int) : String :=
  let power := point - 1
  let size := Nat.toDigits 10 power.natAbs
  let tail := digits.drop 1
  let tail := if tail.isEmpty && keepPoint then ['0'] else tail
  .ofList (digits.take 1 ++ (if tail.isEmpty then [] else '.' :: tail) ++
    'e' :: (if power < 0 then '-' else '+') :: (if size.length < 2 then '0' :: size else size))

def signText (negative : Bool) : String := if negative then "-" else ""

/-- The shortest text, with an exponent when the number is very large or very small. -/
def shortText : Double → String
  | .nan => "NaN"
  | .infinite s => signText s ++ "inf"
  | .finite s m e =>
    if m = 0 then signText s ++ "0.0"
    else
      let d := shortest m e
      signText s ++
        if -5 < d.point ∧ d.point ≤ 16 then positional d.significant d.point
        else scientific false d.significant d.point

/-- The shortest text without an exponent. -/
def plainText : Double → String
  | .nan => "NaN"
  | .infinite s => signText s ++ "inf"
  | .finite s m e =>
    if m = 0 then signText s ++ "0.0"
    else
      let d := shortest m e
      signText s ++ positional d.significant d.point

/-- A positive number rounded to this many significant digits, a half away from zero. -/
def roundedTo (count : Nat) (mantissa : Nat) (exponent : Int) : Decimal :=
  let parts := ratio mantissa exponent
  let unit := decimalExponent parts.1 parts.2 - count
  let q := overTen parts.1 parts.2 unit
  ⟨(2 * q.1 + q.2) / (2 * q.2), unit⟩

/-- The text of a number in a column of texts: fifteen significant digits. -/
def cellText : Double → String
  | .nan => ""
  | .infinite s => signText s ++ "Inf"
  | .finite s m e =>
    if m = 0 then "0.0"
    else
      let d := roundedTo 15 m e
      signText s ++
        if -4 < d.point ∧ d.point ≤ 15 then positional d.significant d.point
        else scientific true d.significant d.point

end Double

end CaseRouting
