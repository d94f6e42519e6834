import CaseRouting.Gateway
import CaseRouting.Table.Row

/-!
# The gateway to the table

A command reads one row, changes it and writes it back as one transaction: the rows change as a
whole or not at all. A query by status is answered by the rows whose cell holds the status word
itself.
-/

namespace CaseRouting.Table

/-- The rows in the order in which they came, and whether somebody else holds the right to write. -/
structure Database where
  rows : List Row
  locked : Bool
  deriving DecidableEq

/-- When the caller of an operation gives up on it. -/
inductive Interruption where
  | never
  | beforeStart
  | beforeCommit
  deriving DecidableEq

def cancelled : Fault := .backend .database "operation cancelled"

/-- Does something unless the caller gave up before it began. -/
def started {α : Type} (interruption : Interruption) (x : Action Database α) : Action Database α :=
  if interruption = .beforeStart then Action.fail cancelled else x

/-- The new rows of a transaction take effect, unless they cannot be written or nobody waits. -/
def commit (interruption : Interruption) (rows : List Row) : Action Database Unit := do
  let db ← Action.get
  if db.locked then Action.fail (.table .locked)
  else if interruption = .beforeCommit then Action.fail cancelled
  else Action.set { db with rows := rows }

def findRow (id : String) (rows : List Row) : Option Row := rows.find? (·.id == .text id)

/-- The test case with this id. -/
def findCase (id : String) (rows : List Row) : Except Fault TestCase :=
  match findRow id rows with
  | some row => row.toTestCase
  | none => .error (.notFound id)

/-- Puts the cells of a test case into the row with its id. -/
def update (c : TestCase) (rows : List Row) : List Row :=
  rows.map fun row => if row.id = .text c.id then Row.ofTestCase c else row

/-- Adds a test case; its id must be new. -/
def insert (c : TestCase) : Action Database Unit := do
  let db ← Action.get
  if db.locked then Action.fail (.table .locked)
  else if (findRow c.id db.rows).isSome then
    Action.fail (.conflict c.id "UNIQUE constraint failed: test_cases.id")
  else Action.set { db with rows := db.rows ++ [Row.ofTestCase c] }

def runCommand (interruption : Interruption) (now : Instant) (command : Command) (id : String) :
    Action Database TestCase :=
  started interruption do
    let db ← Action.get
    let c ← Action.ofExcept (findCase id db.rows)
    let changed ← Action.ofExcept (command.run now c)
    commit interruption (update changed db.rows)
    pure changed

/-- The rows in the order of their ids. -/
def inOrder (rows : List Row) : List Row := rows.mergeSort fun a b => a.id.le b.id

/-- The rows that a filter's status selects. -/
def selected (f : Filter) (rows : List Row) : List Row :=
  match f.status with
  | some status => rows.filter (·.status == .text status.name)
  | none => rows

/-- All rows are read before any is taken for a test case. -/
def casesOf (rows : List Row) : Except Fault (List TestCase) := do
  let texts ← rows.mapM Row.texts
  texts.mapM RowTexts.toTestCase

def listCases (f : Filter) (rows : List Row) : Except Fault (List TestCase) :=
  f.apply <$> casesOf (inOrder (selected f rows))

/-- The gateway to the database, for a caller that may give up. -/
def gateway (interruption : Interruption) (now : Instant) : Gateway Database where
  command := runCommand interruption now
  get id := started interruption do
    let db ← Action.get
    Action.ofExcept (findCase id db.rows)
  list f := started interruption do
    let db ← Action.get
    Action.ofExcept (listCases f db.rows)

end CaseRouting.Table
