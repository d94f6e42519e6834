import CaseRouting.Address.Percent
import CaseRouting.Address.Punycode
import CaseRouting.Text.Blank
import CaseRouting.Text.Case

/-!
# Hosts

A host is a name, four bytes or eight groups of hexadecimal digits in brackets. It is brought to one
form: names in lower case and ASCII, the bytes in decimals, the groups as short as possible.
-/

namespace CaseRouting.Address

inductive AddressError where
  | relative
  | noHost
  | badName
  | badPort
  | badBytes
  | badGroups
  | badCharacter
  deriving DecidableEq

def AddressError.message : AddressError → String
  | .relative => "relative URL without a base"
  | .noHost => "empty host"
  | .badName => "invalid international domain name"
  | .badPort => "invalid port number"
  | .badBytes => "invalid IPv4 address"
  | .badGroups => "invalid IPv6 address"
  | .badCharacter => "invalid domain character"

/-! ## Four bytes -/

/-- The number of digits of a base, if they are digits of it. -/
def numberIn? (base : Nat) (cs : List Char) : Option Nat :=
  cs.foldl (fun n? c =>
    match n?, Text.digitIn? base c with
    | some n, some d => some (n * base + d)
    | _, _ => none) (some 0)

/-- A number in decimals, after `0x` in hexadecimals, or after `0` in octals. -/
def byteNumber? : List Char → Option Nat
  | [] => none
  | '0' :: 'x' :: rest => numberIn? 16 rest
  | '0' :: 'X' :: rest => numberIn? 16 rest
  | '0' :: c :: rest => numberIn? 8 (c :: rest)
  | cs => numberIn? 10 cs

/-- The labels without the empty one that a dot at the end leaves. -/
def labelsOf (name : List Char) : List (List Char) :=
  let labels := name.splitOn '.'
  if labels.getLast? = some [] then labels.dropLast else labels

/-- A name whose last label is a number must be four bytes. -/
def endsInNumber (name : List Char) : Bool :=
  match (labelsOf name).getLast? with
  | some last => (!last.isEmpty && last.all Char.isDigit) || (byteNumber? last).isSome
  | none => false

/-- The value of up to four numbers, of which the last fills the bytes that are left. -/
def bytesValue? (numbers : List Nat) : Option Nat :=
  match numbers.reverse with
  | [] => none
  | last :: others =>
    let count := others.length
    if 4 ≤ count then none
    else if Nat.pow 256 (4 - count) ≤ last || others.any (255 < ·) then none
    else some (others.reverse.zipIdx.foldl (fun n p => n + p.1 * Nat.pow 256 (3 - p.2)) last)

def decimalText (n : Nat) : List Char := Nat.toDigits 10 n

def bytesHost (name : List Char) : Except AddressError (List Char) :=
  match ((labelsOf name).mapM byteNumber?).bind bytesValue? with
  | some v => .ok (['.'].intercalate ([v / Nat.pow 256 3, v / Nat.pow 256 2 % 256, v / 256 % 256,
      v % 256].map decimalText))
  | none => .error .badBytes

/-! ## Eight groups -/

/-- The groups that were read, in reverse, and how many there were after the gap, counting one for
the gap itself. -/
structure Groups where
  read : List Nat
  gap : Option Nat

def Groups.push (g : Groups) (n : Nat) : Groups := { g with read := n :: g.read }

/-- A decimal byte without zeros in front. -/
def plainByte? (cs : List Char) : Option Nat :=
  match cs with
  | [] => none
  | '0' :: _ :: _ => none
  | _ => (numberIn? 10 cs).filter (· ≤ 255)

/-- Four bytes at the end as two groups. -/
def endBytes? (cs : List Char) : Option (Nat × Nat) :=
  match (cs.splitOn '.').mapM plainByte? with
  | some [a, b, c, d] => some (a * 256 + b, c * 256 + d)
  | _ => none

/-- Reads groups up to the end of the text. -/
def readGroups : Nat → Groups → List Char → Option Groups
  | 0, _, _ => none
  | _ + 1, g, [] => some g
  | fuel + 1, g, c :: rest =>
    if 8 ≤ g.read.length then none
    else if c = ':' then
      if g.gap.isSome then none
      else readGroups fuel ⟨0 :: g.read, some (g.read.length + 1)⟩ rest
    else
      let digits := ((c :: rest).take 4).takeWhile fun d => (Text.hexDigit? d).isSome
      let value := (numberIn? 16 digits).getD 0
      match (c :: rest).drop digits.length with
      | [] => some (g.push value)
      | '.' :: _ =>
        if digits.isEmpty || 6 < g.read.length then none
        else (endBytes? (c :: rest)).map fun p => (g.push p.1).push p.2
      | ':' :: [] => none
      | ':' :: more => readGroups fuel (g.push value) more
      | _ => none

/-- The eight groups, with zeros in the gap. -/
def Groups.all? (g : Groups) : Option (List Nat) :=
  let read := g.read.reverse
  match g.gap with
  | some n => some (read.take n ++ List.replicate (8 - read.length) 0 ++ read.drop n)
  | none => if read.length = 8 then some read else none

def groupsOf? (cs : List Char) : Option (List Nat) :=
  match cs with
  | ':' :: ':' :: rest => (readGroups (rest.length + 1) ⟨[0], some 1⟩ rest).bind Groups.all?
  | ':' :: _ => none
  | _ :: _ :: _ => (readGroups (cs.length + 1) ⟨[], none⟩ cs).bind Groups.all?
  | _ => none

def zeroRun (groups : List Nat) : Nat := (groups.takeWhile (· == 0)).length

/-- The place and length of the first longest run of at least two zeros. -/
def longestRun (groups : List Nat) : Nat × Nat :=
  ((List.range 8).map fun i => (i, zeroRun (groups.drop i))).foldl
    (fun best run => if best.2 < run.2 then run else best) (0, 1)

def groupsText (groups : List Nat) : List Char :=
  let text (gs : List Nat) := [':'].intercalate (gs.map (Nat.toDigits 16))
  let run := longestRun groups
  if run.2 < 2 then text groups
  else text (groups.take run.1) ++ ':' :: ':' :: text (groups.drop (run.1 + run.2))

def groupsHost (cs : List Char) : Except AddressError (List Char) :=
  match groupsOf? cs with
  | some groups => .ok ('[' :: groupsText groups ++ [']'])
  | none => .error .badGroups

/-! ## Names -/

/-- Characters that a name cannot hold, and ASCII control characters. -/
def forbiddenInName (c : Char) : Bool :=
  c.toNat ≤ 0x20 || c.toNat = 0x7F ||
    ['%', '#', '/', ':', '<', '>', '?', '@', '[', '\\', ']', '^', '|'].contains c

/-- Characters that a name passes over. -/
def ignoredInName (c : Char) : Bool :=
  [0xAD, 0x200B, 0x2060, 0xFEFF].contains c.toNat

/-- A character of a name in its common form: wide forms as ASCII, capitals as small letters. -/
def commonForm (c : Char) : List Char :=
  let n := c.toNat
  if ignoredInName c then []
  else if n = 0x3002 || n = 0xFF61 then ['.']
  else if 0xFF01 ≤ n && n ≤ 0xFF5E then Text.lowerChar (Char.ofNat (n - 0xFEE0))
  else if Text.isBlank c then [' ']
  else Text.lowerChar c

/-- Characters above ASCII that name nothing. -/
def unnamed (c : Char) : Bool :=
  let n := c.toNat
  (0x80 ≤ n && n < 0xA0) || n = 0xFFFD || (0xE000 ≤ n && n < 0xF900) || n % 0x10000 ≥ 0xFFFE

def mark : List Char := ['x', 'n', '-', '-']

/-- The ASCII form of a label. A label that is in this form already must stand for one that is not.
-/
def asciiLabel (label : List Char) : Except AddressError (List Char) :=
  if label.all (·.toNat < 0x80) then
    if mark.isPrefixOf label then
      match Punycode.decode (label.drop 4) with
      | some decoded =>
        if decoded.any (0x80 ≤ ·.toNat) && Punycode.encode decoded == label.drop 4 then .ok label
        else .error .badName
      | none => .error .badName
    else .ok label
  else .ok (mark ++ Punycode.encode label)

/-- The ASCII form of a name given by its bytes. -/
def asciiName (bytes : Bytes) : Except AddressError (List Char) :=
  match Text.decodeUtf8 bytes with
  | .error _ => .error .badName
  | .ok s => do
    let cs := s.toList.flatMap commonForm
    if cs.any fun c => forbiddenInName c || unnamed c then throw .badName
    let labels ← (cs.splitOn '.').mapM asciiLabel
    pure (['.'].intercalate labels)

/-- The inside of brackets. -/
def inBrackets? (cs : List Char) : Option (List Char) :=
  match cs with
  | '[' :: rest => if rest.getLast? = some ']' then some rest.dropLast else none
  | _ => none

/-- The host of a web address. -/
def webHost (cs : List Char) : Except AddressError (List Char) := do
  if cs.head? = some '[' then
    match inBrackets? cs with
    | some inside => groupsHost inside
    | none => throw .badGroups
  else
    let name ← asciiName (decode cs)
    if name.isEmpty then throw .noHost
    else if endsInNumber name then bytesHost name
    else pure name

/-- Characters that the host of an address of another kind cannot hold. -/
def forbiddenInOtherHost : List Char :=
  ['\x00', '\t', '\n', '\r', ' ', '#', '/', ':', '<', '>', '?', '@', '[', '\\', ']', '^', '|']

/-- Checks the host of an address that is not for the web, which keeps its form. -/
def checkOtherHost (cs : List Char) : Except AddressError Unit := do
  if cs.head? = some '[' then
    match inBrackets? cs with
    | some inside => (fun _ => ()) <$> groupsHost inside
    | none => throw .badGroups
  else if cs.any forbiddenInOtherHost.contains then throw .badCharacter
  else pure ()

end CaseRouting.Address
