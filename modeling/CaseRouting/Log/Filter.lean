import CaseRouting.Log.Event
import CaseRouting.Text.Blank
import CaseRouting.Text.Case
import CaseRouting.Text.Natural

/-!
# Log filters

A filter is a list of directives with commas between them. A directive names a target, a span or
fields of spans, and the least important level that is let through. Of the directives that fit an
event, the one with the longest target decides. No event happens in a span, so directives for spans
let nothing through.
-/

namespace CaseRouting.Log

/-- The least important level that is let through, or nothing at all. -/
inductive Threshold where
  | off
  | level (l : Level)
  deriving DecidableEq

def Threshold.admits : Threshold → Level → Bool
  | .off, _ => false
  | .level least, l => least.rank ≤ l.rank

structure Directive where
  target : Option String
  inSpan : Bool
  fields : List (String × Bool)
  threshold : Threshold
  deriving DecidableEq

structure Filter where
  directives : List Directive
  deriving DecidableEq

namespace Filter

/-- A level by its number or its name in any case of letters. -/
def threshold? (cs : List Char) : Option Threshold :=
  match Text.natural? cs with
  | some 0 => some .off
  | some 1 => some (.level .error)
  | some 2 => some (.level .warn)
  | some 3 => some (.level .info)
  | some 4 => some (.level .debug)
  | some 5 => some (.level .trace)
  | some _ => none
  | none =>
    match Text.asciiLower (.ofList cs) with
    | "" => some (.level .error)
    | "error" => some (.level .error)
    | "warn" => some (.level .warn)
    | "info" => some (.level .info)
    | "debug" => some (.level .debug)
    | "trace" => some (.level .trace)
    | "off" => some .off
    | _ => none

/-- The level after an equals sign; without one, everything is let through. -/
def levelPart? (cs : List Char) : Option Threshold :=
  if cs.isEmpty then some (.level .trace) else threshold? cs

/-- A directive without spans or an equals sign: a level, or else a target. -/
def wordDirective (word : List Char) : Directive :=
  match threshold? word with
  | some t => ⟨none, false, [], t⟩
  | none => ⟨some (.ofList word), false, [], .level .trace⟩

/-- The names of fields, and whether they must have a value. -/
def field? (cs : List Char) : Option (String × Bool) :=
  if cs.isEmpty then none
  else some (.ofList (cs.takeWhile (· ≠ '=')), cs.contains '=')

/-- A span with its fields in brackets, and the text after it. -/
def span? (cs : List Char) : Option (Bool × List (String × Bool) × List Char) :=
  let name := cs.takeWhile fun c => c != ']' && c != '\x7b'
  match cs.drop name.length with
  | ']' :: rest => some (true, [], rest)
  | '\x7b' :: rest =>
    let inside := rest.takeWhile (· ≠ '\x7d')
    match field? inside, rest.drop inside.length with
    | some f, '\x7d' :: ']' :: rest => some (!name.isEmpty, [f], rest)
    | _, _ => none
  | _ => none

/-- What may follow a span: nothing, or an equals sign and a level. -/
def afterSpan? (cs : List Char) : Option Threshold :=
  match cs with
  | [] => some (.level .trace)
  | '=' :: rest => levelPart? rest
  | _ => none

def mayBegin (c : Char) : Bool :=
  c == '-' || c == ':' || c == '_' || c.isAlphanum || 0x80 ≤ c.toNat

/-- A directive. Blanks around it are passed over, but places in it are counted with them. -/
def directive? (text : List Char) : Option Directive :=
  let body := Text.trimChars text
  match body with
  | [] => none
  | '[' :: rest => do
    let (inSpan, fields, rest) ← span? (text.drop (body.length - rest.length))
    let threshold ← afterSpan? rest
    pure ⟨none, inSpan, fields, threshold⟩
  | c :: _ =>
    if !mayBegin c then none
    else
      let word := body.takeWhile fun c => c != '=' && c != '['
      let target := some (.ofList (text.take word.length))
      match body.drop word.length with
      | [] => some (wordDirective text)
      | '=' :: _ =>
        (levelPart? (text.drop (word.length + 1))).map fun t => ⟨target, false, [], t⟩
      | _ => do
        let (inSpan, fields, rest) ← span? (text.drop (word.length + 1))
        let threshold ← afterSpan? rest
        pure ⟨target, inSpan, fields, threshold⟩

/-- Reads a filter, directives with commas between them; empty ones are passed over. -/
def parse? (s : String) : Option Filter :=
  (((s.toList.splitOn ',').filter (!·.isEmpty)).mapM directive?).map Filter.mk

/-- The directive is about events outside of spans. -/
def isForEvents (d : Directive) : Bool := !d.inSpan && d.fields.all (!·.2)

def fits (d : Directive) (e : Event) : Bool :=
  isForEvents d && d.target.all (fun t => t.toList.isPrefixOf e.target.toList) &&
    d.fields.all fun f => e.data.any (·.1 == f.1) || f.1 == "message"

/-- How closely a directive describes its events. -/
def weight (d : Directive) : Nat × Nat :=
  ((d.target.map fun t => t.utf8ByteSize + 1).getD 0, d.fields.length)

/-- The directive that decides about an event, the last of those that describe it most closely. -/
def deciding (f : Filter) (e : Event) : Option Directive :=
  (f.directives.filter (fits · e)).foldl
    (fun best d =>
      match best with
      | none => some d
      | some b =>
        if (weight d).1 < (weight b).1 ∨ ((weight d).1 = (weight b).1 ∧ (weight d).2 < (weight b).2)
        then some b else some d) none

/-- The events that a filter lets through; one without directives lets errors through. -/
def admits (f : Filter) (e : Event) : Bool :=
  if f.directives.isEmpty then e.level == .error
  else match f.deciding e with
    | some d => d.threshold.admits e.level
    | none => false

/-- The filter for a target and everything under it. -/
def forProgram (level : Level) : Filter := ⟨[⟨some "tc_router", false, [], .level level⟩]⟩

/-- The filter of a run: what the environment asks for, then what the settings ask for, and else
information, or more when the run is to be talkative. -/
def choose (environment settings : Option String) (verbose : Bool) : Filter :=
  match environment.bind parse?, settings with
  | some f, _ => f
  | none, some s => (parse? s).getD (forProgram .info)
  | none, none =>
    if verbose then ⟨(forProgram .debug).directives ++ [⟨none, false, [], .level .info⟩]⟩
    else forProgram .info

end Filter

end CaseRouting.Log
