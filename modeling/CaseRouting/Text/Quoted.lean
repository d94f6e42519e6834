import CaseRouting.Text.PrintableTable

/-!
# Quoted text

Text between double quotes, with quotes and backslashes escaped and with characters that are not
shown as themselves written by number: the form in which values appear inside messages.
-/

namespace CaseRouting.Text

/-- The shortest hexadecimal form, in lower case. -/
def hexText (n : Nat) : String := .ofList (Nat.toDigits 16 n)

def isHidden (c : Char) : Bool :=
  c.toNat < 0x20 || hiddenRanges.any fun r => r.1 ≤ c.toNat && c.toNat ≤ r.2

def escapeChar (c : Char) : String :=
  match c with
  | '\x00' => "\\0"
  | '\t' => "\\t"
  | '\r' => "\\r"
  | '\n' => "\\n"
  | '"' => "\\\""
  | '\\' => "\\\\"
  | _ => if isHidden c then "\\u\x7b" ++ hexText c.toNat ++ "\x7d" else c.toString

/-- The text between double quotes. -/
def quoted (s : String) : String :=
  "\"" ++ String.join (s.toList.map escapeChar) ++ "\""

/-- The form of a path, in which apostrophes are escaped as well. -/
def quotedPath (s : String) : String :=
  "\"" ++ String.join (s.toList.map fun c => if c = '\x27' then "\\'" else escapeChar c) ++ "\""

/-- An optional value as it is shown in diagnostics. -/
def shownOption {α : Type} (shown : α → String) : Option α → String
  | some a => "Some(" ++ shown a ++ ")"
  | none => "None"

end CaseRouting.Text
