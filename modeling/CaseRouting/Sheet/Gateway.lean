import CaseRouting.Files.Storage
import CaseRouting.Gateway
import CaseRouting.Sheet.Row

/-!
# The gateway to a sheet

Every call reads the whole sheet. A command changes the first row with its id and writes the whole
sheet back; labels that the sheet could not hold are refused before it is read.
-/

namespace CaseRouting.Sheet

open Files (Storage)

variable {σ : Type}

/-- A label that would come back changed from its cell. -/
def isUnfitLabel (label : String) : Bool :=
  label.toList.contains labelSeparator || Text.trim label != label

def checkLabels : Command → Except Fault Unit
  | .update changes =>
    match (changes.labels.getD []).find? isUnfitLabel with
    | some label =>
      .error (.refused ("label '" ++ label ++ "' cannot contain ';' or surrounding whitespace"))
    | none => .ok ()
  | _ => .ok ()

def loaded (file : String) (count : Nat) : Log.Event where
  level := .debug
  target := "tc_router::adapters::csv"
  message := "Loaded CSV test cases"
  data := [("file", .shown file), ("rows", .count count)]

def load (storage : Storage σ) (file : String) : Action σ (List TestCase) := do
  let bytes ← storage.read file
  let cs ← Action.ofExcept (decode bytes)
  Action.log (loaded file cs.length)
  pure cs

def save (storage : Storage σ) (file : String) (cs : List TestCase) : Action σ Unit :=
  storage.write file (encode cs)

/-- Changes the first test case with this id; the changed one comes first in the answer. -/
def changeFirst (id : String) (change : TestCase → Except Fault TestCase) :
    List TestCase → Except Fault (TestCase × List TestCase)
  | [] => .error (.notFound id)
  | c :: rest =>
    if c.id = id then do
      let c ← change c
      pure (c, c :: rest)
    else do
      let (changed, rest) ← changeFirst id change rest
      pure (changed, c :: rest)

def runCommand (storage : Storage σ) (file : String) (now : Instant) (command : Command)
    (id : String) : Action σ TestCase := do
  Action.ofExcept (checkLabels command)
  let cs ← load storage file
  let (changed, cs) ← Action.ofExcept (changeFirst id (command.run now) cs)
  save storage file cs
  pure changed

def findCase (id : String) (cs : List TestCase) : Except Fault TestCase :=
  match cs.find? (·.id == id) with
  | some c => .ok c
  | none => .error (.notFound id)

/-- The gateway to the sheet in a file. -/
def gateway (storage : Storage σ) (file : String) (now : Instant) : Gateway σ where
  command := runCommand storage file now
  get id := do
    let cs ← load storage file
    Action.ofExcept (findCase id cs)
  list f := do
    let cs ← load storage file
    pure (f.apply cs)

end CaseRouting.Sheet
