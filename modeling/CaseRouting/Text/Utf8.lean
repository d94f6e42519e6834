/-!
# UTF-8

Bytes as text. A decoder that tells how many leading bytes are well formed when not all are, and
decoders that put a character in place of what is ill formed.
-/

namespace CaseRouting

abbrev Bytes := List UInt8

namespace Text

def encodeUtf8 (cs : List Char) : Bytes := cs.flatMap String.utf8EncodeChar

def isContinuation (b : UInt8) : Bool := 0x80 ≤ b && b < 0xC0

def continuationBits (b : UInt8) : Nat := b.toNat % 64

/-- The character with this number, if it is one and takes at least `least` as its number. -/
def charFrom? (least n : Nat) : Option Char :=
  if h : n.isValidChar then if least ≤ n then some (Char.ofNatAux n h) else none else none

/-- Reads the characters of well-formed bytes; else the number of bytes before the first ill-formed
character, counted from `start`. -/
def decodeUtf8From (start : Nat) : Bytes → Except Nat (List Char)
  | [] => .ok []
  | a :: rest =>
    if a < 0x80 then (Char.ofNat a.toNat :: ·) <$> decodeUtf8From (start + 1) rest
    else match rest with
      | [] => .error start
      | b :: rest₂ =>
        if !isContinuation b then .error start
        else if 0xC0 ≤ a && a < 0xE0 then
          match charFrom? 0x80 (a.toNat % 32 * 64 + continuationBits b) with
          | some c => (c :: ·) <$> decodeUtf8From (start + 2) rest₂
          | none => .error start
        else match rest₂ with
          | [] => .error start
          | c :: rest₃ =>
            if !isContinuation c then .error start
            else if 0xE0 ≤ a && a < 0xF0 then
              match charFrom? 0x800
                  ((a.toNat % 16 * 64 + continuationBits b) * 64 + continuationBits c) with
              | some x => (x :: ·) <$> decodeUtf8From (start + 3) rest₃
              | none => .error start
            else match rest₃ with
              | [] => .error start
              | d :: rest₄ =>
                if isContinuation d && 0xF0 ≤ a && a < 0xF8 then
                  match charFrom? 0x10000 (((a.toNat % 8 * 64 + continuationBits b) * 64 +
                      continuationBits c) * 64 + continuationBits d) with
                  | some x => (x :: ·) <$> decodeUtf8From (start + 4) rest₄
                  | none => .error start
                else .error start

/-- The text of well-formed bytes, or the number of bytes before the first ill-formed character. -/
def decodeUtf8 (bytes : Bytes) : Except Nat String := .ofList <$> decodeUtf8From 0 bytes

/-- The second bytes that can follow a first byte of three or four. -/
def secondByteFits (a b : UInt8) : Bool :=
  isContinuation b && (a != 0xE0 || 0xA0 ≤ b) && (a != 0xED || b < 0xA0) &&
    (a != 0xF0 || 0x90 ≤ b) && (a != 0xF4 || b < 0x90)

/-- How many bytes of an ill-formed beginning one replacement character stands for. -/
def illFormedLength : Bytes → Nat
  | a :: b :: c :: _ =>
    if 0xE0 ≤ a && a < 0xF5 && secondByteFits a b then
      if 0xF0 ≤ a && isContinuation c then 3 else 2
    else 1
  | [a, b] => if 0xE0 ≤ a && a < 0xF5 && secondByteFits a b then 2 else 1
  | _ => 1

/-- The characters of any bytes. Where they are ill formed, `standIn` stands for so many bytes as
`skipped` tells. -/
def decodeReplacing (standIn : Char) (skipped : Bytes → Nat) : Nat → Bytes → List Char
  | 0, _ => []
  | fuel + 1, bytes =>
    match decodeUtf8From 0 bytes with
    | .ok cs => cs
    | .error n =>
      ((decodeUtf8From 0 (bytes.take n)).toOption.getD []) ++ standIn ::
        decodeReplacing standIn skipped fuel (bytes.drop (n + skipped (bytes.drop n)))

/-- The text of any bytes, without a byte order mark, with ill-formed parts replaced. -/
def decodeLossy (bytes : Bytes) : String :=
  let body := if [0xEF, 0xBB, 0xBF].isPrefixOf bytes then bytes.drop 3 else bytes
  .ofList (decodeReplacing '\uFFFD' illFormedLength (body.length + 1) body)

/-- The characters of any bytes, with `standIn` for each ill-formed byte. -/
def decodeWith (standIn : Char) (bytes : Bytes) : List Char :=
  decodeReplacing standIn (fun _ => 1) (bytes.length + 1) bytes

/-- The bytes of a text in UTF-8. -/
def bytesOf (s : String) : Bytes := encodeUtf8 s.toList

end Text

end CaseRouting
