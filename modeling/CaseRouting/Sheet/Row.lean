import CaseRouting.Instant.Parse
import CaseRouting.Sheet.Record
import CaseRouting.TestCase.Filter

/-!
# Rows of a sheet

A row holds one test case. The header names the columns, in any order and among others; cells are
read without the blanks around them. Labels share one cell, with a semicolon between them.
-/

namespace CaseRouting.Sheet

def isAsciiBlank (b : UInt8) : Bool :=
  b == 0x20 || b == 0x09 || b == 0x0A || b == 0x0C || b == 0x0D

/-- The bytes without ASCII blanks at their ends. -/
def trimBytes (cell : Bytes) : Bytes :=
  ((cell.dropWhile isAsciiBlank).reverse.dropWhile isAsciiBlank).reverse

/-- The text of a cell without blanks around it, or the place of its first ill-formed character. -/
def cellText (cell : Bytes) : Except Nat String := Text.trim <$> Text.decodeUtf8 (trimBytes cell)

def cellTexts (position : Position) (column : Nat) : List Bytes → Except SheetError (List String)
  | [] => .ok []
  | cell :: rest =>
    match cellText cell with
    | .error index => .error (.illFormed position column index)
    | .ok s => (s :: ·) <$> cellTexts position (column + 1) rest

/-- The cells of a row, before they are taken for a test case. -/
structure Row where
  id : String
  title : String
  status : String
  priority : Option String
  labels : Option String
  updatedAt : Option String
  deriving DecidableEq

def columns : List String := ["id", "title", "status", "priority", "labels", "updated_at"]

/-- An empty cell stands for an absent value. -/
def filled? (cell : Option String) : Option String := cell.filter (· ≠ "")

def requiredCell (name : String) : Option String → Except RowFault String
  | some s => .ok s
  | none => .error (.missingColumn name)

/-- The first known column that the header names twice, in the order of the header. -/
def repeatedColumn (seen : List String) : List String → Option String
  | [] => none
  | name :: rest =>
    if columns.contains name && seen.contains name then some name
    else repeatedColumn (name :: seen) rest

/-- A row whose columns the header names. -/
def Row.ofNamed (header cells : List String) : Except RowFault Row :=
  match repeatedColumn [] header with
  | some name => .error (.repeatedColumn name)
  | none => do
    let cell (name : String) : Option String := ((header.zip cells).find? (·.1 == name)).map (·.2)
    pure {
      id := ← requiredCell "id" (cell "id")
      title := ← requiredCell "title" (cell "title")
      status := ← requiredCell "status" (cell "status")
      priority := filled? (cell "priority")
      labels := filled? (cell "labels")
      updatedAt := filled? (cell "updated_at") }

/-- A row whose columns are in their usual order, under a header that is no text. -/
def Row.ofPlaced : List String → Except RowFault Row
  | id :: title :: status :: rest =>
    .ok ⟨id, title, status, filled? rest[0]?, filled? rest[1]?, filled? rest[2]?⟩
  | cells => .error (.tooFewCells cells.length)

def labelSeparator : Char := ';'

/-- The labels of a cell: its parts without blanks around them, as far as something is left. -/
def labelsOfCell (cell : String) : List String :=
  (((cell.toList.splitOn labelSeparator).map Text.trimChars).filter (· ≠ [])).map String.ofList

def cellOfLabels (labels : List String) : String := ";".intercalate labels

def Row.instant (row : Row) : Except Fault (Option Instant) :=
  match row.updatedAt with
  | none => .ok none
  | some raw =>
    if Text.isBlankText raw then .ok none
    else match Instant.ofRfc3339 (Text.trim raw) with
      | .ok t => .ok (some t)
      | .error e =>
        .error (.backend .sheet
          ("row " ++ row.id ++ " has invalid updated_at '" ++ raw ++ "': " ++ e.message))

def Row.toTestCase (row : Row) : Except Fault TestCase :=
  match Status.ofCell? row.status with
  | none =>
    .error (.backend .sheet ("row " ++ row.id ++ " has unknown status '" ++ row.status ++ "'"))
  | some status => do
    let updatedAt ← row.instant
    pure {
      id := row.id
      title := row.title
      status := status
      priority := row.priority.filter fun p => !Text.isBlankText p
      labels := (row.labels.map labelsOfCell).getD []
      updatedAt := updatedAt }

/-- How the header was read: as names of columns, or not as text at all. -/
inductive Header where
  | names (names : List String)
  | placed

def headerOf (record : Record) : Header :=
  match cellTexts record.position 0 record.cells with
  | .ok names => .names names
  | .error _ => .placed

def Header.row (header : Header) (cells : List String) : Except RowFault Row :=
  match header with
  | .names columns => Row.ofNamed columns cells
  | .placed => Row.ofPlaced cells

/-- The test case of a record, which has as many cells as the header. -/
def Header.testCase (header : Header) (width : Nat) (record : Record) : Except Fault TestCase := do
  if record.cells.length ≠ width then
    throw (.sheet (.unequalCells record.position record.cells.length width))
  match cellTexts record.position 0 record.cells with
  | .error e => throw (.sheet e)
  | .ok cells =>
    match header.row cells with
    | .error fault => throw (.sheet (.row record.position fault))
    | .ok row => row.toTestCase

/-- The test cases of a sheet. -/
def decode (bytes : Bytes) : Except Fault (List TestCase) :=
  match records bytes with
  | [] => .ok []
  | first :: rest => rest.mapM ((headerOf first).testCase first.cells.length)

/-- The cells of a test case in the order of the columns. -/
def cellsOf (c : TestCase) : List String := [
  c.id,
  c.title,
  c.status.name,
  c.priority.getD "",
  cellOfLabels c.labels,
  (c.updatedAt.map Instant.stored).getD ""]

def writeTexts (cells : List String) : Bytes := writeRecord (cells.map Text.bytesOf)

/-- The sheet of some test cases; without any, it is empty. -/
def encode (cs : List TestCase) : Bytes :=
  if cs.isEmpty then [] else writeTexts columns ++ cs.flatMap fun c => writeTexts (cellsOf c)

end CaseRouting.Sheet
