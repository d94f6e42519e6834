import CaseRouting.Text.Utf8

/-!
# Base 64

Bytes as letters, digits, `+` and `/`, four for each three bytes, filled up with `=`.
-/

namespace CaseRouting.Text

def sixBits (n : Nat) : Char :=
  let n := n % 64
  if n < 26 then Char.ofNat (65 + n)
  else if n < 52 then Char.ofNat (71 + n)
  else if n < 62 then Char.ofNat (n - 4)
  else if n = 62 then '+' else '/'

def base64Chars : Bytes → List Char
  | a :: b :: c :: rest =>
    let n := (a.toNat * 256 + b.toNat) * 256 + c.toNat
    sixBits (n / 262144) :: sixBits (n / 4096) :: sixBits (n / 64) :: sixBits n :: base64Chars rest
  | [a, b] =>
    let n := (a.toNat * 256 + b.toNat) * 256
    [sixBits (n / 262144), sixBits (n / 4096), sixBits (n / 64), '=']
  | [a] =>
    let n := a.toNat * 65536
    [sixBits (n / 262144), sixBits (n / 4096), '=', '=']
  | [] => []

def base64 (s : String) : String := .ofList (base64Chars (bytesOf s))

end CaseRouting.Text
