import CaseRouting.Toml.Scalar
import CaseRouting.Toml.Table

/-!
# Reading settings text

Settings text is a sequence of lines: keys with values, and headers that open tables. Only the whole
text is read or refused, since no more is told of a fault.
-/

namespace CaseRouting.Toml

def isSpace (c : Char) : Bool := c == ' ' || c == '\t'

def skipSpaces (cs : List Char) : List Char := cs.dropWhile isSpace

/-- Characters that may stand in comments and quoted text. -/
def isPlain (c : Char) : Bool := c == '\t' || (0x20 ≤ c.toNat && c.toNat ≠ 0x7F)

/-- The text after a line break. -/
def lineBreak? : List Char → Option (List Char)
  | '\n' :: rest => some rest
  | '\r' :: '\n' :: rest => some rest
  | _ => none

/-- Skips spaces and a comment; what follows must not be part of the comment. -/
def skipBlank (cs : List Char) : List Char :=
  match skipSpaces cs with
  | '#' :: rest => rest.dropWhile isPlain
  | rest => rest

/-- Skips spaces, comments and line breaks. -/
def skipLines : Nat → List Char → List Char
  | 0, cs => cs
  | fuel + 1, cs =>
    let rest := skipBlank cs
    match lineBreak? rest with
    | some rest => skipLines fuel rest
    | none => rest

def skipAllLines (cs : List Char) : List Char := skipLines (cs.length + 1) cs

/-! ## Texts -/

/-- A character given by exactly `count` hexadecimal digits. -/
def hexEscape (count : Nat) (cs : List Char) : Option (Char × List Char) := do
  let ds ← (cs.take count).mapM Text.hexDigit?
  let n := valueOf 16 ds
  if ds.length ≠ count then none
  else if h : n.isValidChar then some (Char.ofNatAux n h, cs.drop count) else none

/-- The character of an escape after its backslash. -/
def escape? : List Char → Option (Char × List Char)
  | 'b' :: rest => some ('\x08', rest)
  | 't' :: rest => some ('\t', rest)
  | 'n' :: rest => some ('\n', rest)
  | 'f' :: rest => some ('\x0c', rest)
  | 'r' :: rest => some ('\r', rest)
  | 'e' :: rest => some ('\x1b', rest)
  | '"' :: rest => some ('"', rest)
  | '\\' :: rest => some ('\\', rest)
  | 'x' :: rest => hexEscape 2 rest
  | 'u' :: rest => hexEscape 4 rest
  | 'U' :: rest => hexEscape 8 rest
  | _ => none

/-- The rest of a text on one line; `escapes` says whether a backslash escapes. -/
def lineText (mark : Char) (escapes : Bool) :
    Nat → List Char → List Char → Option (String × List Char)
  | 0, _, _ => none
  | fuel + 1, done, cs =>
    match cs with
    | [] => none
    | c :: rest =>
      if c = mark then some (.ofList done.reverse, rest)
      else if c = '\\' && escapes then
        match escape? rest with
        | some (c, rest) => lineText mark escapes fuel (c :: done) rest
        | none => none
      else if isPlain c then lineText mark escapes fuel (c :: done) rest
      else none

/-- The text after a backslash at the end of a line, without the blanks that follow. -/
def continued? (cs : List Char) : Option (List Char) :=
  (lineBreak? (skipSpaces cs)).map fun rest =>
    rest.dropWhile fun c => isSpace c || c == '\n' || c == '\r'

/-- The rest of a text over many lines. One or two marks before the last three belong to it. -/
def blockText (mark : Char) (escapes : Bool) :
    Nat → List Char → List Char → Option (String × List Char)
  | 0, _, _ => none
  | fuel + 1, done, cs =>
    match cs with
    | [] => none
    | c :: rest =>
      if c = mark then
        let run := (cs.takeWhile (· == mark)).length
        if run < 3 then blockText mark escapes fuel (c :: done) rest
        else if run ≤ 5 then
          some (.ofList (done.reverse ++ List.replicate (run - 3) mark), cs.drop run)
        else none
      else if c = '\\' && escapes then
        match escape? rest with
        | some (c, rest) => blockText mark escapes fuel (c :: done) rest
        | none =>
          match continued? rest with
          | some rest => blockText mark escapes fuel done rest
          | none => none
      else
        match lineBreak? cs with
        | some rest =>
          if c = '\r' then blockText mark escapes fuel ('\n' :: '\r' :: done) rest
          else blockText mark escapes fuel ('\n' :: done) rest
        | none => if isPlain c then blockText mark escapes fuel (c :: done) rest else none

/-- A line break right after the opening marks does not count. -/
def dropFirstBreak (cs : List Char) : List Char := (lineBreak? cs).getD cs

/-- A quoted text of any kind. -/
def quotedText? (cs : List Char) : Option (String × List Char) :=
  match cs with
  | '"' :: '"' :: '"' :: rest => blockText '"' true (cs.length + 1) [] (dropFirstBreak rest)
  | '\'' :: '\'' :: '\'' :: rest => blockText '\'' false (cs.length + 1) [] (dropFirstBreak rest)
  | '"' :: rest => lineText '"' true (cs.length + 1) [] rest
  | '\'' :: rest => lineText '\'' false (cs.length + 1) [] rest
  | _ => none

/-! ## Keys -/

def isKeyChar (c : Char) : Bool := c.isAlphanum || c == '_' || c == '-'

/-- One part of a key. -/
def keyPart? (cs : List Char) : Option (String × List Char) :=
  match cs with
  | '"' :: rest => lineText '"' true (cs.length + 1) [] rest
  | '\'' :: rest => lineText '\'' false (cs.length + 1) [] rest
  | _ =>
    let word := cs.takeWhile isKeyChar
    if word.isEmpty then none else some (.ofList word, cs.drop word.length)

/-- A key of parts with dots between them, as the parts before the last and the last. -/
def key? : Nat → List Char → Option ((List String × String) × List Char)
  | 0, _ => none
  | fuel + 1, cs =>
    match keyPart? (skipSpaces cs) with
    | none => none
    | some (part, rest) =>
      match skipSpaces rest with
      | '.' :: more =>
        (key? fuel more).map fun r => ((part :: r.1.1, r.1.2), r.2)
      | rest => some (([], part), rest)

/-! ## Values -/

def isWordChar (c : Char) : Bool :=
  c.isAlphanum || c == '_' || c == '-' || c == '+' || c == '.' || c == ':'

/-- An unquoted word; a blank may stand between a date and a time. -/
def word (cs : List Char) : List Char × List Char :=
  let first := cs.takeWhile isWordChar
  let rest := cs.drop first.length
  match rest with
  | ' ' :: more =>
    if first.length = 10 && date? first == some [] && (more.head?.any Char.isDigit) then
      let second := more.takeWhile isWordChar
      (first ++ ' ' :: second, more.drop second.length)
    else (first, rest)
  | _ => (first, rest)

mutual

/-- A value, nested no deeper than `depth`. -/
def value? : Nat → Nat → List Char → Option (Doc × List Char)
  | 0, _, _ => none
  | fuel + 1, depth, cs =>
    match cs with
    | [] => none
    | c :: rest =>
      if c = '"' || c = '\'' then (quotedText? cs).map fun r => (.ofText r.1, r.2)
      else if c = '[' then
        match depth with
        | 0 => none
        | depth + 1 => (array? fuel depth rest).map fun r => (.array r.1 true, r.2)
      else if c = '\x7b' then
        match depth with
        | 0 => none
        | depth + 1 =>
          (inline? fuel depth [] rest).map fun r => ((Entry.table false false r.1).toDoc, r.2)
      else
        let (w, rest) := word cs
        (scalar? w).map fun d => (d, rest)

/-- Items up to the closing bracket. -/
def array? : Nat → Nat → List Char → Option (List Doc × List Char)
  | 0, _, _ => none
  | fuel + 1, depth, cs =>
    match skipAllLines cs with
    | ']' :: rest => some ([], rest)
    | cs =>
      match value? fuel depth cs with
      | none => none
      | some (d, rest) =>
        match skipAllLines rest with
        | ',' :: rest => (array? fuel depth rest).map fun r => (d :: r.1, r.2)
        | ']' :: rest => some ([d], rest)
        | _ => none

/-- Members up to the closing brace. -/
def inline? : Nat → Nat → Members → List Char → Option (Members × List Char)
  | 0, _, _, _ => none
  | fuel + 1, depth, ms, cs =>
    match skipAllLines cs with
    | '\x7d' :: rest => some (ms, rest)
    | cs =>
      match key? (cs.length + 1) cs with
      | some ((path, key), '=' :: rest) =>
        match value? fuel depth (skipSpaces rest) with
        | none => none
        | some (d, rest) =>
          match assignIn path key d false ms with
          | none => none
          | some ms =>
            match skipAllLines rest with
            | ',' :: rest => inline? fuel depth ms rest
            | '\x7d' :: rest => some (ms, rest)
            | _ => none
      | _ => none

end

/-! ## Lines -/

/-- What was read so far, and the path of the table that the last header opened. -/
structure Progress where
  root : Members
  header : List String

/-- How deep values may be nested. -/
def deepest : Nat := 80

/-- A header after its brackets. -/
def header? (series : Bool) (p : Progress) (cs : List Char) : Option (Progress × List Char) :=
  match key? (cs.length + 1) cs with
  | some ((path, key), rest) =>
    let closed? := match series, rest with
      | true, ']' :: ']' :: rest => some rest
      | false, ']' :: rest => some rest
      | _, _ => none
    match closed?, (if series then openSeries else openTable) path key p.root with
    | some rest, some root => some (⟨root, path ++ [key]⟩, rest)
    | _, _ => none
  | none => none

/-- A key and its value. -/
def keyValue? (p : Progress) (cs : List Char) : Option (Progress × List Char) :=
  match key? (cs.length + 1) cs with
  | some ((path, key), '=' :: rest) =>
    match value? (2 * rest.length + 2) deepest (skipSpaces rest) with
    | some (d, rest) => (assign p.header path key d p.root).map fun root => (⟨root, p.header⟩, rest)
    | none => none
  | _ => none

/-- What a line holds before its comment. -/
def expression? (p : Progress) (cs : List Char) : Option (Progress × List Char) :=
  match skipSpaces cs with
  | '[' :: '[' :: rest => header? true p rest
  | '[' :: rest => header? false p rest
  | [] => some (p, [])
  | c :: rest =>
    if c = '#' || c = '\n' || c = '\r' then some (p, c :: rest) else keyValue? p (c :: rest)

def lines? : Nat → Progress → List Char → Option Progress
  | 0, _, _ => none
  | fuel + 1, p, cs =>
    match expression? p cs with
    | none => none
    | some (p, rest) =>
      match skipBlank rest with
      | [] => some p
      | rest =>
        match lineBreak? rest with
        | some rest => lines? fuel p rest
        | none => none

/-- The document of a settings text, unless the text is at fault. -/
def read? (s : String) : Option Doc :=
  let cs := match s.toList with
    | '\uFEFF' :: rest => rest
    | cs => cs
  (lines? (cs.length + 1) ⟨[], []⟩ cs).map fun p => (Entry.table false false p.root).toDoc

end CaseRouting.Toml
