import CaseRouting.Json.Reader
import CaseRouting.Json.Value
import CaseRouting.Instant.Parse
import CaseRouting.TestCase.Filter
import CaseRouting.Text.Utf8

/-!
# Rows of the table

A row holds one test case in six cells. Labels are kept as a JSON list, times in the stored form. A
cell may hold no value, or bytes that are no text; then the row cannot be read.
-/

namespace CaseRouting.Table

inductive Cell where
  | null
  | text (s : String)
  | blob (bytes : Bytes)
  deriving DecidableEq

structure Row where
  id : Cell
  title : Cell
  status : Cell
  priority : Cell
  labels : Cell
  updatedAt : Cell
  deriving DecidableEq

/-- Bytes in the order of the first that differs; what is begun by the whole other comes later. -/
def bytesLe : Bytes → Bytes → Bool
  | [], _ => true
  | _ :: _, [] => false
  | a :: as, b :: bs => decide (a < b) || (a == b && bytesLe as bs)

namespace Cell

/-- Nothing, then texts by their characters, then bytes. -/
def le : Cell → Cell → Bool
  | .null, _ => true
  | _, .null => false
  | .text a, .text b => decide (a ≤ b)
  | .text _, .blob _ => true
  | .blob _, .text _ => false
  | .blob a, .blob b => bytesLe a b

/-- A column of texts turns a number into its text. -/
def ofNumber : Number → Cell
  | .whole n => .text (toString n)
  | .real d => .text d.cellText

def ofOption : Option String → Cell
  | some s => .text s
  | none => .null

/-- The text of a cell that must hold one. -/
def required (index : Nat) (name : String) : Cell → Except Fault String
  | .text s => .ok s
  | .null => .error (.table (.columnType index name "Null"))
  | .blob _ => .error (.table (.columnType index name "Blob"))

/-- The text of a cell that may hold none. -/
def optional (index : Nat) (name : String) : Cell → Except Fault (Option String)
  | .text s => .ok (some s)
  | .null => .ok none
  | .blob _ => .error (.table (.columnType index name "Blob"))

end Cell

/-- The texts of a row's cells. -/
structure RowTexts where
  id : String
  title : String
  status : String
  priority : Option String
  labels : String
  updatedAt : Option String
  deriving DecidableEq

/-- The texts of a row; the first cell that cannot be read is told. -/
def Row.texts (r : Row) : Except Fault RowTexts := do
  let id ← r.id.required 0 "id"
  let title ← r.title.required 1 "title"
  let status ← r.status.required 2 "status"
  let priority ← r.priority.optional 3 "priority"
  let labels ← r.labels.required 4 "labels"
  let updatedAt ← r.updatedAt.optional 5 "updated_at"
  pure ⟨id, title, status, priority, labels, updatedAt⟩

namespace RowTexts

def instant (r : RowTexts) : Except Fault (Option Instant) :=
  match r.updatedAt with
  | none => .ok none
  | some raw =>
    match Instant.ofRfc3339 raw with
    | .ok t => .ok (some t)
    | .error e =>
      .error (.backend .database ("row " ++ r.id ++ " has invalid updated_at: " ++ e.message))

def labelList (r : RowTexts) : Except Fault (List String) :=
  match Json.decodeText (Decode.list Decode.text) r.labels with
  | .ok ls => .ok ls
  | .error e => .error (.decoding e)

def toTestCase (r : RowTexts) : Except Fault TestCase :=
  match Status.ofCell? r.status with
  | none =>
    .error (.backend .database ("row " ++ r.id ++ " has unknown status '" ++ r.status ++ "'"))
  | some status => do
    let labels ← r.labelList
    let updatedAt ← r.instant
    pure ⟨r.id, r.title, status, r.priority, labels, updatedAt⟩

end RowTexts

/-- The test case of a row. -/
def Row.toTestCase (r : Row) : Except Fault TestCase := do
  let texts ← r.texts
  texts.toTestCase

/-- The cell that holds labels. -/
def labelsCell (labels : List String) : Cell := .text (Json.Value.texts labels).compact

/-- The row of a test case. -/
def Row.ofTestCase (c : TestCase) : Row where
  id := .text c.id
  title := .text c.title
  status := .text c.status.name
  priority := .ofOption c.priority
  labels := labelsCell c.labels
  updatedAt := .ofOption (c.updatedAt.map Instant.stored)

end CaseRouting.Table
