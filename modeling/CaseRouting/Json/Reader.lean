import CaseRouting.Data.Decode
import CaseRouting.Text.Natural

/-!
# Reading JSON text

The reader never fails: it puts faults into the document, where a decoder meets them in its own
order. Two faults of a kind that only a decoder can mind are kept apart: a text with a lone
surrogate and a number that is too large.
-/

namespace CaseRouting.Json

open Text (digitValue hexDigit?)

def isSpace (c : Char) : Bool := c == ' ' || c == '\n' || c == '\t' || c == '\r'

def skipSpaces (cs : List Char) : List Char := cs.dropWhile isSpace

/-- Four hexadecimal digits. -/
def fourHex : List Char → Option (Nat × List Char)
  | a :: b :: c :: d :: rest => do
    let a ← hexDigit? a
    let b ← hexDigit? b
    let c ← hexDigit? c
    let d ← hexDigit? d
    pure (((a * 16 + b) * 16 + c) * 16 + d, rest)
  | _ => none

def isHighSurrogate (n : Nat) : Bool := 0xD800 ≤ n && n < 0xDC00

def isLowSurrogate (n : Nat) : Bool := 0xDC00 ≤ n && n < 0xE000

/-- A unit or a pair of units after its `\u`: the character, unless a surrogate stands alone. -/
def unicodeEscape (cs : List Char) : Option (Option Char × List Char) :=
  match fourHex cs with
  | none => none
  | some (n, rest) =>
    if isHighSurrogate n then
      match rest with
      | '\\' :: 'u' :: more =>
        match fourHex more with
        | some (m, rest₂) =>
          if isLowSurrogate m then
            some (some (Char.ofNat (0x10000 + (n - 0xD800) * 0x400 + (m - 0xDC00))), rest₂)
          else some (none, rest)
        | none => none
      | _ => some (none, rest)
    else if isLowSurrogate n then some (none, rest)
    else some (some (Char.ofNat n), rest)

def plainEscape? : Char → Option Char
  | '"' => some '"'
  | '\\' => some '\\'
  | '/' => some '/'
  | 'b' => some '\x08'
  | 'f' => some '\x0c'
  | 'n' => some '\n'
  | 'r' => some '\r'
  | 't' => some '\t'
  | _ => none

/-- The characters up to the closing quote, in reverse before `taken`; `held` is false once a
surrogate stood alone. -/
def readText : Nat → List Char → Bool → List Char → Doc × List Char
  | 0, _, _, _ => (.broken, [])
  | fuel + 1, taken, held, cs =>
    match cs with
    | [] => (.broken, [])
    | '"' :: rest => (.text (if held then some (.ofList taken.reverse) else none), rest)
    | '\\' :: 'u' :: rest =>
      match unicodeEscape rest with
      | some (some c, rest) => readText fuel (c :: taken) held rest
      | some (none, rest) => readText fuel taken false rest
      | none => (.broken, [])
    | '\\' :: c :: rest =>
      match plainEscape? c with
      | some c => readText fuel (c :: taken) held rest
      | none => (.broken, [])
    | c :: rest =>
      if c.toNat < 0x20 || c = '\\' then (.broken, []) else readText fuel (c :: taken) held rest

/-- A significand and a power of ten as a number, unless it is too large. A small power is divided
out in steps that can be held. -/
def realOf (negative : Bool) (significand : Nat) (power : Int) : Option Double :=
  let signed (d : Double) := if negative then d.negated else d
  let start := Double.ofNat significand
  if significand = 0 then some (signed start)
  else if power ≤ -616 then some (signed (.finite false 0 (-1074)))
  else if power < -308 then
    some (signed ((start.overPower 308).overPower (-(power + 308)).toNat))
  else if power < 0 then some (signed (start.overPower (-power).toNat))
  else if power ≤ 308 then
    match start.timesPower power.toNat with
    | .infinite _ => none
    | d => some (signed d)
  else none

/-- The significand so far, its power of ten, and whether it is too full to take a digit. -/
structure Significand where
  value : Nat
  power : Int
  full : Bool

def Significand.takes (s : Significand) (digit : Nat) : Bool := s.value * 10 + digit < Nat.pow 2 64

/-- A digit before the decimal point; one that does not fit counts as a zero. -/
def Significand.pushWhole (s : Significand) (c : Char) : Significand :=
  if s.full then { s with power := s.power + 1 }
  else if s.takes (digitValue c) then { s with value := s.value * 10 + digitValue c }
  else ⟨s.value, s.power + 1, true⟩

/-- A digit after the decimal point; one that does not fit ends the significand. -/
def Significand.pushFraction (s : Significand) (c : Char) : Significand :=
  if s.full then s
  else if s.takes (digitValue c) then ⟨s.value * 10 + digitValue c, s.power - 1, false⟩
  else { s with full := true }

/-- The number of a literal, unless it is too large. -/
def numberOf (negative : Bool) (wholeDigits : List Char) (fraction : Option (List Char))
    (exponent : Option (Bool × List Char)) : Option Number :=
  let s := wholeDigits.foldl Significand.pushWhole ⟨0, 0, false⟩
  match fraction, exponent with
  | none, none =>
    if s.full then .real <$> realOf negative s.value s.power
    else if negative then
      if s.value = 0 then some (.real (.finite true 0 (-1074)))
      else if s.value ≤ Nat.pow 2 63 then some (.whole (-(s.value : Int)))
      else .real <$> realOf true s.value 0
    else some (.whole s.value)
  | _, _ =>
    let s := (fraction.getD []).foldl Significand.pushFraction { s with full := false }
    match exponent with
    | none => .real <$> realOf negative s.value s.power
    | some (below, digits) =>
      let n := Text.numberOf digits
      .real <$> realOf negative s.value (if below then s.power - n else s.power + n)

/-- A sign and digits after an exponent mark. -/
def readExponent (cs : List Char) : Option ((Bool × List Char) × List Char) :=
  let (below, cs) := match cs with
    | '-' :: rest => (true, rest)
    | '+' :: rest => (false, rest)
    | _ => (false, cs)
  let digits := cs.takeWhile Char.isDigit
  if digits.isEmpty then none else some ((below, digits), cs.drop digits.length)

/-- The exponent, if one comes next, ends a number. -/
def readNumberTail (negative : Bool) (whole : List Char) (fraction : Option (List Char))
    (cs : List Char) : Doc × List Char :=
  match cs with
  | c :: rest =>
    if c = 'e' || c = 'E' then
      match readExponent rest with
      | some (e, rest) => (.number (numberOf negative whole fraction (some e)), rest)
      | none => (.broken, [])
    else (.number (numberOf negative whole fraction none), cs)
  | [] => (.number (numberOf negative whole fraction none), [])

/-- A number after its sign. -/
def readNumber (negative : Bool) (cs : List Char) : Doc × List Char :=
  let whole := cs.takeWhile Char.isDigit
  if whole.isEmpty || (whole.length ≠ 1 && whole.head? = some '0') then (.broken, [])
  else match cs.drop whole.length with
    | '.' :: rest =>
      let fraction := rest.takeWhile Char.isDigit
      if fraction.isEmpty then (.broken, [])
      else readNumberTail negative whole (some fraction) (rest.drop fraction.length)
    | rest => readNumberTail negative whole none rest

/-- The document `d`, if this word comes next. -/
def readWord (word : String) (d : Doc) (cs : List Char) : Doc × List Char :=
  if word.toList.isPrefixOf cs then (d, cs.drop word.length) else (.broken, [])

mutual

/-- A document and the text after it; after a fault, no text is left. -/
def readValue : Nat → List Char → Doc × List Char
  | 0, _ => (.broken, [])
  | fuel + 1, cs =>
    match skipSpaces cs with
    | [] => (.broken, [])
    | c :: rest =>
      if c = '"' then readText (rest.length + 1) [] true rest
      else if c = '[' then
        match skipSpaces rest with
        | ']' :: rest => (.array [] true, rest)
        | rest =>
          let r := readItems fuel rest
          (.array r.1 r.2.1, r.2.2)
      else if c = '\x7b' then
        match skipSpaces rest with
        | '\x7d' :: rest => (.object [] true, rest)
        | rest =>
          let r := readMembers fuel rest
          (.object r.1 r.2.1, r.2.2)
      else if c = '-' then readNumber true rest
      else if c.isDigit then readNumber false (c :: rest)
      else if c = 'n' then readWord "null" .null (c :: rest)
      else if c = 't' then readWord "true" (.bool true) (c :: rest)
      else if c = 'f' then readWord "false" (.bool false) (c :: rest)
      else (.broken, [])

/-- Items up to the closing bracket. -/
def readItems : Nat → List Char → List Doc × Bool × List Char
  | 0, _ => ([], false, [])
  | fuel + 1, cs =>
    let (d, rest) := readValue fuel cs
    match skipSpaces rest with
    | ',' :: rest =>
      let r := readItems fuel rest
      (d :: r.1, r.2)
    | ']' :: rest => ([d], true, rest)
    | _ => ([d], false, [])

/-- Members up to the closing brace. -/
def readMembers : Nat → List Char → List (Doc × Doc) × Bool × List Char
  | 0, _ => ([], false, [])
  | fuel + 1, cs =>
    let (key, rest) := readValue fuel cs
    match skipSpaces rest with
    | ':' :: rest =>
      let (d, rest) := readValue fuel rest
      match skipSpaces rest with
      | ',' :: rest =>
        let r := readMembers fuel rest
        ((key, d) :: r.1, r.2)
      | '\x7d' :: rest => ([(key, d)], true, rest)
      | _ => ([(key, d)], false, [])
    | _ => ([(key, .broken)], false, [])

end

/-- The document at the head of a text, and the text after it. -/
def readChars (cs : List Char) : Doc × List Char := readValue (2 * cs.length + 2) cs

def read (s : String) : Doc × List Char := readChars s.toList

/-- Decodes what was read, which must be one document and nothing else. -/
def decodeRead {α : Type} (decoder : Decoder α) (r : Doc × List Char) : Decoded α := do
  let a ← decoder .stream r.1
  if (skipSpaces r.2).isEmpty then pure a else throw .malformed

def decodeText {α : Type} (decoder : Decoder α) (s : String) : Decoded α :=
  decodeRead decoder (read s)

end CaseRouting.Json
