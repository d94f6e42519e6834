/-!
# Punycode

Labels of host names in ASCII: the plain letters of a label, and after a hyphen the places and
numbers of its other characters as variable-length integers.
-/

namespace CaseRouting.Address.Punycode

def digit (n : Nat) : Char := if n < 26 then Char.ofNat (97 + n) else Char.ofNat (22 + n)

def digitValue? (c : Char) : Option Nat :=
  if 'a' ≤ c && c ≤ 'z' then some (c.toNat - 97)
  else if 'A' ≤ c && c ≤ 'Z' then some (c.toNat - 65)
  else if '0' ≤ c && c ≤ '9' then some (c.toNat - 22)
  else none

/-- How much the digit at a place can hold, from one to twenty-six. -/
def threshold (place bias : Nat) : Nat := max 1 (min 26 (place - bias))

def adaptFrom : Nat → Nat → Nat → Nat
  | 0, delta, k => k + 36 * delta / (delta + 38)
  | fuel + 1, delta, k =>
    if 455 < delta then adaptFrom fuel (delta / 35) (k + 36) else k + 36 * delta / (delta + 38)

/-- The bias after a number `delta` for the character that is the `count`-th written. -/
def adapt (delta count : Nat) (first : Bool) : Nat :=
  let delta := if first then delta / 700 else delta / 2
  adaptFrom delta (delta + delta / count) 0

/-- The digits of a number, the least first. -/
def number : Nat → Nat → Nat → Nat → List Char
  | 0, _, _, _ => []
  | fuel + 1, place, bias, n =>
    let t := threshold place bias
    if n < t then [digit n]
    else digit (t + (n - t) % (36 - t)) :: number fuel (place + 36) bias ((n - t) / (36 - t))

structure State where
  written : List Char
  delta : Nat
  bias : Nat
  count : Nat

/-- One character of the label in the round that writes the characters with number `current`. -/
def encodeOne (plain current : Nat) (s : State) (c : Char) : State :=
  if c.toNat < current then { s with delta := s.delta + 1 }
  else if c.toNat = current then {
    written := s.written ++ number (s.delta + 1) 36 s.bias s.delta
    delta := 0
    bias := adapt s.delta (s.count + 1) (s.count == plain)
    count := s.count + 1 }
  else s

/-- One round for each number above ASCII, in rising order. -/
def encodeRounds (label : List Char) (plain : Nat) : Nat → State → List Nat → State
  | _, s, [] => s
  | current, s, next :: rest =>
    let s := { s with delta := s.delta + (next - current) * (s.count + 1) }
    let s := label.foldl (encodeOne plain next) s
    encodeRounds label plain (next + 1) { s with delta := s.delta + 1 } rest

def distinct : List Nat → List Nat
  | a :: b :: rest => if a = b then distinct (b :: rest) else a :: distinct (b :: rest)
  | ns => ns

/-- The ASCII form of a label, without the mark in front. -/
def encode (label : List Char) : List Char :=
  let plain := label.filter (·.toNat < 0x80)
  let others := (label.map Char.toNat).filter (0x80 ≤ ·)
  let start := if plain.isEmpty then [] else plain ++ ['-']
  (encodeRounds label plain.length 0x80 ⟨start, 0, 72, plain.length⟩
    (distinct (others.mergeSort fun a b => decide (a ≤ b)))).written

/-- A number and the text after its digits. -/
def readNumber (bias : Nat) : Nat → Nat → Nat → List Char → Option (Nat × List Char)
  | _, _, _, [] => none
  | value, weight, place, c :: rest =>
    match digitValue? c with
    | none => none
    | some d =>
      let t := threshold place bias
      if d < t then some (value + d * weight, rest)
      else readNumber bias (value + d * weight) (weight * (36 - t)) (place + 36) rest

def insertAt (c : Char) : Nat → List Char → List Char
  | 0, cs => c :: cs
  | n + 1, b :: cs => b :: insertAt c n cs
  | _ + 1, [] => [c]

def decodeFrom : Nat → Nat → Nat → Nat → List Char → List Char → Option (List Char)
  | _, _, _, _, done, [] => some done
  | 0, _, _, _, _, _ => none
  | fuel + 1, current, index, bias, done, cs =>
    match readNumber bias 0 1 36 cs with
    | none => none
    | some (delta, rest) =>
      let size := done.length + 1
      let place := index + delta
      let n := current + place / size
      if h : n.isValidChar then
        decodeFrom fuel n (place % size + 1) (adapt delta size (index == 0))
          (insertAt (Char.ofNatAux n h) (place % size) done) rest
      else none

/-- The label of an ASCII form. -/
def decode (cs : List Char) : Option (List Char) :=
  let behind := (cs.reverse.takeWhile (· ≠ '-')).reverse
  if behind.length = cs.length then decodeFrom (cs.length + 1) 0x80 0 72 [] cs
  else decodeFrom (cs.length + 1) 0x80 0 72 (cs.take (cs.length - behind.length - 1)) behind

end CaseRouting.Address.Punycode
