import CaseRouting.Data.Double
import CaseRouting.Text.Quoted

/-!
# JSON values and their text

A value as it is written out, with the members of an object in the order given. The compact text has
no blanks; the indented one has a line for each item.
-/

namespace CaseRouting.Json

inductive Value where
  | null
  | bool (b : Bool)
  | whole (n : Int)
  | real (d : Double)
  | text (s : String)
  | list (items : List Value)
  | object (members : List (String × Value))

namespace Value

/-- A value that may be absent. -/
def option {α : Type} (f : α → Value) : Option α → Value
  | none => .null
  | some a => f a

def texts (ss : List String) : Value := .list (ss.map .text)

end Value

def hexDigit (n : Nat) : Char := Nat.digitChar (n % 16)

/-- Quotes, backslashes and control characters are escaped, and nothing else. -/
def escapeChar (c : Char) : List Char :=
  match c with
  | '"' => ['\\', '"']
  | '\\' => ['\\', '\\']
  | '\x08' => ['\\', 'b']
  | '\x0c' => ['\\', 'f']
  | '\n' => ['\\', 'n']
  | '\r' => ['\\', 'r']
  | '\t' => ['\\', 't']
  | _ =>
    if c.toNat < 0x20 then ['\\', 'u', '0', '0', hexDigit (c.toNat / 16), hexDigit c.toNat] else [c]

def textLiteral (s : String) : List Char := '"' :: s.toList.flatMap escapeChar ++ ['"']

/-- How a value is laid out: the break before each item at a depth, and the blanks between the colon
of a member and its value. -/
structure Layout where
  lineBreak : Nat → List Char
  afterColon : List Char

namespace Layout

/-- Without blanks. -/
def compact : Layout := ⟨fun _ => [], []⟩

/-- A line for each item of a list and each member of an object. -/
def indented : Layout := ⟨fun depth => '\n' :: List.replicate (2 * depth) ' ', [' ']⟩

end Layout

namespace Value

mutual

/-- The text of a value at this depth. -/
def chars (l : Layout) (depth : Nat) : Value → List Char
  | .null => "null".toList
  | .bool b => (if b then "true" else "false").toList
  | .whole n => (toString n).toList
  | .real (.finite s m e) => (Double.shortText (.finite s m e)).toList
  | .real _ => "null".toList
  | .text s => textLiteral s
  | .list [] => ['[', ']']
  | .list vs => '[' :: itemChars l (depth + 1) vs ++ l.lineBreak depth ++ [']']
  | .object [] => ['\x7b', '\x7d']
  | .object ms => '\x7b' :: memberChars l (depth + 1) ms ++ l.lineBreak depth ++ ['\x7d']

def itemChars (l : Layout) (depth : Nat) : List Value → List Char
  | [] => []
  | [v] => l.lineBreak depth ++ chars l depth v
  | v :: rest => l.lineBreak depth ++ chars l depth v ++ ',' :: itemChars l depth rest

def memberChars (l : Layout) (depth : Nat) : List (String × Value) → List Char
  | [] => []
  | [(k, v)] => l.lineBreak depth ++ textLiteral k ++ ':' :: l.afterColon ++ chars l depth v
  | (k, v) :: rest =>
    l.lineBreak depth ++ textLiteral k ++ ':' :: l.afterColon ++ chars l depth v ++
      ',' :: memberChars l depth rest

end

/-- The text without blanks. -/
def compact (v : Value) : String := .ofList (v.chars .compact 0)

/-- The text with a line for each item and each member. -/
def indented (v : Value) : String := .ofList (v.chars .indented 0)

end Value

end CaseRouting.Json
