/-!
# Faults of a sheet's text

What can be wrong with the rows of a sheet, with the place where the faulty row begins.
-/

namespace CaseRouting.Sheet

/-- The place where reading of a row began: rows, lines and bytes before it. Lines count from one.
-/
structure Position where
  row : Nat
  line : Nat
  byte : Nat
  deriving DecidableEq

inductive RowFault where
  | missingColumn (name : String)
  | repeatedColumn (name : String)
  | tooFewCells (count : Nat)
  deriving DecidableEq

inductive SheetError where
  | unequalCells (position : Position) (found expected : Nat)
  | illFormed (position : Position) (cell : Nat) (index : Nat)
  | row (position : Position) (fault : RowFault)
  | unreadable (reason : String)
  deriving DecidableEq

def RowFault.message : RowFault → String
  | .missingColumn name => "missing field `" ++ name ++ "`"
  | .repeatedColumn name => "duplicate field `" ++ name ++ "`"
  | .tooFewCells n =>
    "invalid length " ++ toString n ++ ", expected struct CsvRow with 6 elements"

/-- The place, with a colon or a blank after the word for the line. -/
def Position.text (p : Position) (mark : String) (between : String) : String :=
  "record " ++ toString p.row ++ " (line" ++ mark ++ " " ++ toString p.line ++ between ++
    ", byte: " ++ toString p.byte ++ ")"

def SheetError.message : SheetError → String
  | .unequalCells p found expected =>
    "CSV error: " ++ p.text ":" "" ++ ": found record with " ++ toString found ++
      " fields, but the previous record has " ++ toString expected ++ " fields"
  | .illFormed p cell index =>
    "CSV parse error: " ++ p.text "" (", field: " ++ toString cell) ++
      ": invalid utf-8: invalid UTF-8 in field " ++ toString cell ++ " near byte index " ++
      toString index
  | .row p fault => "CSV deserialize error: " ++ p.text ":" "" ++ ": " ++ fault.message
  | .unreadable reason => reason

end CaseRouting.Sheet
