import CaseRouting.Text.Blank
import CaseRouting.Text.Case

/-!
# Sources

The systems that may own a test case. A request names one of them and is routed to its gateway.
-/

namespace CaseRouting

inductive Source where
  | sheet
  | tracker
  | database
  deriving DecidableEq

namespace Source

/-- All sources in the order of their slots. -/
def all : List Source := [.sheet, .tracker, .database]

def slot : Source → Nat
  | .sheet => 0
  | .tracker => 1
  | .database => 2

def name : Source → String
  | .sheet => "csv"
  | .tracker => "jira"
  | .database => "database"

/-- The name as it is shown in diagnostics. -/
def label : Source → String
  | .sheet => "Csv"
  | .tracker => "Jira"
  | .database => "Database"

/-- The source of a name, up to blanks at its ends and the case of letters; `db` is short for the
database. -/
def ofName? (s : String) : Option Source :=
  match Text.asciiLower (Text.trim s) with
  | "csv" => some .sheet
  | "jira" => some .tracker
  | "database" => some .database
  | "db" => some .database
  | _ => none

/-- Names with commas between them. -/
def listed (sources : List Source) : String := ", ".intercalate (sources.map name)

theorem mem_all (s : Source) : s ∈ all := by cases s <;> decide

end Source

end CaseRouting
