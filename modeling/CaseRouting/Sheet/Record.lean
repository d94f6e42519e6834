import CaseRouting.Sheet.Error
import CaseRouting.Text.Utf8

/-!
# Records of a sheet

A sheet is a sequence of records, each a list of cells. A record ends with a line break of either
kind, and empty lines are skipped. A cell that begins with a quote goes on to the closing quote,
over separators and line breaks, and a quote inside is written twice. The writer quotes a cell
exactly when it holds a separator, a quote or a line break.
-/

namespace CaseRouting.Sheet

def separator : UInt8 := 0x2C

def quote : UInt8 := 0x22

def lineFeed : UInt8 := 0x0A

def carriageReturn : UInt8 := 0x0D

def endsRecord (b : UInt8) : Bool := b == lineFeed || b == carriageReturn

/-- Where in a cell the reader stands. -/
inductive Place where
  | start
  | plain
  | quoted
  | afterQuote
  deriving DecidableEq

/-- The cells up to the end of the record, and the bytes after it. `cell` holds the bytes of the
current cell in reverse. -/
def readCells (place : Place) (cell : Bytes) : Bytes → List Bytes × Bytes
  | [] => ([cell.reverse], [])
  | b :: rest =>
    if place = .quoted then
      if b = quote then readCells .afterQuote cell rest else readCells .quoted (b :: cell) rest
    else if b = quote ∧ place = .start then readCells .quoted cell rest
    else if b = quote ∧ place = .afterQuote then readCells .quoted (b :: cell) rest
    else if b = separator then
      let next := readCells .start [] rest
      (cell.reverse :: next.1, next.2)
    else if endsRecord b then ([cell.reverse], rest)
    else readCells .plain (b :: cell) rest

/-- A record with the place where reading it began. -/
structure Record where
  position : Position
  cells : List Bytes

/-- The place after some bytes of a record. -/
def Position.after (p : Position) (consumed : Bytes) : Position :=
  ⟨p.row + 1, p.line + consumed.count lineFeed, p.byte + consumed.length⟩

/-- All records from a place on; `fuel` bounds their number. -/
def readRecords : Nat → Position → Bytes → List Record
  | 0, _, _ => []
  | fuel + 1, p, bytes =>
    match bytes.dropWhile endsRecord with
    | [] => []
    | body =>
      let (cells, rest) := readCells .start [] body
      ⟨p, cells⟩ :: readRecords fuel (p.after (bytes.take (bytes.length - rest.length))) rest

def byteOrderMark : Bytes := [0xEF, 0xBB, 0xBF]

/-- The records of a sheet, without a byte order mark at its head. -/
def records (bytes : Bytes) : List Record :=
  if byteOrderMark.isPrefixOf bytes then readRecords bytes.length ⟨0, 1, 3⟩ (bytes.drop 3)
  else readRecords bytes.length ⟨0, 1, 0⟩ bytes

def needsQuotes (cell : Bytes) : Bool :=
  cell.any fun b => b == separator || b == quote || endsRecord b

def writeCell (cell : Bytes) : Bytes :=
  if needsQuotes cell then
    quote :: cell.flatMap (fun b => if b = quote then [quote, quote] else [b]) ++ [quote]
  else cell

/-- A record and the line feed that ends it. -/
def writeRecord : List Bytes → Bytes
  | [] => [lineFeed]
  | [cell] => writeCell cell ++ [lineFeed]
  | cell :: rest => writeCell cell ++ separator :: writeRecord rest

end CaseRouting.Sheet
