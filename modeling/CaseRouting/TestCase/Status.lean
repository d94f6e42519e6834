import CaseRouting.Text.Blank
import CaseRouting.Text.Case

/-!
# Status of a test case
-/

namespace CaseRouting

inductive Status where
  | draft
  | active
  | deprecated
  deriving DecidableEq

namespace Status

def name : Status → String
  | .draft => "draft"
  | .active => "active"
  | .deprecated => "deprecated"

/-- The name as it is shown in diagnostics. -/
def label : Status → String
  | .draft => "Draft"
  | .active => "Active"
  | .deprecated => "Deprecated"

def all : List Status := [.draft, .active, .deprecated]

/-- The status of a cell, up to blanks at its ends and the case of letters. -/
def ofCell? (s : String) : Option Status :=
  match Text.asciiLower (Text.trim s) with
  | "draft" => some .draft
  | "active" => some .active
  | "deprecated" => some .deprecated
  | _ => none

end Status

end CaseRouting
