import CaseRouting.Instant.Format
import CaseRouting.Json.Value
import CaseRouting.Log.Event
import CaseRouting.Text.Quoted

/-!
# Log lines

An event is written as one line, either to be read by people or as a JSON object.
-/

namespace CaseRouting.Log

open Json (Value)

inductive Layout where
  | plain
  | json
  deriving DecidableEq

namespace Datum

def text : Datum → String
  | .shown s => s
  | .quoted s => Text.quoted s
  | .count n => toString n

def toJson : Datum → Value
  | .shown s => .text s
  | .quoted s => .text s
  | .count n => .whole (n : Int)

end Datum

/-- A character of a message, in a form that no terminal takes for a command. -/
def harmless (c : Char) : String :=
  match c with
  | '\x1b' => "\\x1b"
  | '\x07' => "\\x07"
  | '\x08' => "\\x08"
  | '\x0c' => "\\x0c"
  | '\x7f' => "\\x7f"
  | _ =>
    if 0x80 ≤ c.toNat ∧ c.toNat ≤ 0x9F then "\\u\x7b" ++ Text.hexText c.toNat ++ "\x7d"
    else c.toString

namespace Event

/-- The line for people, with the level flush right in five columns. -/
def plainLine (now : Instant) (e : Event) : String :=
  let level := .ofList (List.replicate (5 - e.level.name.length) ' ') ++ e.level.name
  let message := String.join (e.message.toList.map harmless)
  now.logStamp ++ " " ++ level ++ " " ++ message ++
    String.join (e.data.map fun d => " " ++ d.1 ++ "=" ++ d.2.text) ++ "\n"

def toJson (now : Instant) (e : Event) : Value := .object [
  ("timestamp", .text now.logStamp),
  ("level", .text e.level.name),
  ("fields", .object (("message", .text e.message) :: e.data.map fun d => (d.1, d.2.toJson))),
  ("target", .text e.target)]

def line (layout : Layout) (now : Instant) (e : Event) : String :=
  match layout with
  | .plain => e.plainLine now
  | .json => (e.toJson now).compact ++ "\n"

end Event

end CaseRouting.Log
