import CaseRouting.Text.Natural
import CaseRouting.Text.Utf8

/-!
# Percent encoding

A character that must not stand in a part of an address is written as the bytes of its UTF-8 form,
each as a percent sign and two hexadecimal digits. Which characters these are depends on the part.
-/

namespace CaseRouting.Address

open Text (hexDigit?)

def upperHex (n : Nat) : Char := if n < 10 then Char.ofNat (48 + n) else Char.ofNat (55 + n)

def percentByte (b : UInt8) : List Char :=
  ['%', upperHex (b.toNat / 16), upperHex (b.toNat % 16)]

def percentChar (c : Char) : List Char := (String.utf8EncodeChar c).flatMap percentByte

/-- Encodes the characters that `reserved` names and all that are not printable ASCII. -/
def encode (reserved : Char → Bool) (cs : List Char) : List Char :=
  cs.flatMap fun c =>
    if c.toNat < 0x20 || 0x7E < c.toNat || reserved c then percentChar c else [c]

/-- What is encoded in a path that is read. -/
def reservedInPath (c : Char) : Bool :=
  [' ', '"', '<', '>', '`', '#', '?', '\x7b', '\x7d'].contains c

/-- What is encoded in a segment that is added to a path. -/
def reservedInSegment (c : Char) : Bool := reservedInPath c || ['/', '%', '\\'].contains c

/-- What is encoded in a user name or password. -/
def reservedInUserInfo (c : Char) : Bool :=
  reservedInPath c || ['/', ':', ';', '=', '@', '[', '\\', ']', '^', '|'].contains c

/-- The bytes of a text whose well-formed percent escapes are undone. -/
def decode : List Char → Bytes
  | '%' :: a :: b :: rest =>
    match hexDigit? a, hexDigit? b with
    | some m, some n => UInt8.ofNat (16 * m + n) :: decode rest
    | _, _ => 0x25 :: decode (a :: b :: rest)
  | c :: rest => String.utf8EncodeChar c ++ decode rest
  | [] => []
termination_by cs => cs.length

def isQueryPlain (b : UInt8) : Bool :=
  (0x30 ≤ b && b ≤ 0x39) || (0x41 ≤ b && b ≤ 0x5A) || (0x61 ≤ b && b ≤ 0x7A) ||
    b == 0x2A || b == 0x2D || b == 0x2E || b == 0x5F

/-- A name or value in a query: a blank is a plus sign, and all but letters, digits and `*-._` is
encoded. -/
def queryText (s : String) : List Char :=
  (Text.bytesOf s).flatMap fun b =>
    if b == 0x20 then ['+'] else if isQueryPlain b then [Char.ofNat b.toNat] else percentByte b

def queryPair (p : String × String) : List Char := queryText p.1 ++ '=' :: queryText p.2

/-- The pairs of a query in their order. -/
def queryChars : List (String × String) → List Char
  | [] => []
  | [p] => queryPair p
  | p :: rest => queryPair p ++ '&' :: queryChars rest

def query (pairs : List (String × String)) : String := .ofList (queryChars pairs)

end CaseRouting.Address
