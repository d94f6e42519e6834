import CaseRouting.Data.Decode
import CaseRouting.Files.Error
import CaseRouting.Sheet.Error
import CaseRouting.Source
import CaseRouting.Table.Error
import CaseRouting.Tracker.Error

/-!
# Faults

Everything that can make a request fail, in four categories: the configuration, the named source,
the rules for test cases, and the systems behind the sources. The category decides how severe a
fault is, whether a retry makes sense and how the fault is told to a user.
-/

namespace CaseRouting

inductive Fault where
  | configuration (message : String)
  | settingsText (field message : String)
  | badSetting (field value reason : String)
  | missingSetting (field : String)
  | unbound (source : Source)
  | incomplete (missing : List Source)
  | boundTwice (source : Source)
  | unknownSource (value : String)
  | notFound (id : String)
  | conflict (id message : String)
  | refused (rule : String)
  | backend (source : Source) (message : String)
  | request (cause : Tracker.RequestError)
  | sheet (cause : Sheet.SheetError)
  | file (cause : Files.FileError)
  | table (cause : Table.TableError)
  | decoding (cause : DecodeError)
  deriving DecidableEq

inductive Category where
  | configuration
  | source
  | business
  | integration
  deriving DecidableEq

def Category.name : Category → String
  | .configuration => "Configuration"
  | .source => "InvalidSource"
  | .business => "Business"
  | .integration => "Integration"

inductive Severity where
  | low
  | medium
  | high
  | critical
  deriving DecidableEq

def Severity.name : Severity → String
  | .low => "Low"
  | .medium => "Medium"
  | .high => "High"
  | .critical => "Critical"

namespace Fault

def message : Fault → String
  | .configuration m => "Configuration error: " ++ m
  | .settingsText field m => "Configuration validation failed for '" ++ field ++ "': " ++ m
  | .badSetting field value reason =>
    "Invalid value '" ++ value ++ "' for '" ++ field ++ "': " ++ reason
  | .missingSetting field => "Missing required configuration: " ++ field
  | .unbound source => "No gateway bound for source '" ++ source.name ++ "'"
  | .incomplete missing =>
    "Gateway bindings are incomplete, unbound sources: " ++ Source.listed missing
  | .boundTwice source => "Source '" ++ source.name ++ "' is bound more than once"
  | .unknownSource value =>
    "Invalid source '" ++ value ++ "', expected one of: " ++ Source.listed Source.all
  | .notFound id => "Test case not found: " ++ id
  | .conflict id m => "Conflict on test case " ++ id ++ ": " ++ m
  | .refused rule => "Rule violated: " ++ rule
  | .backend source m => source.name ++ " backend failed: " ++ m
  | .request cause => "API request failed: " ++ cause.message
  | .sheet cause => "CSV processing error: " ++ cause.message
  | .file cause => "IO error: " ++ cause.message
  | .table cause => "Database error: " ++ cause.message
  | .decoding cause => "Serialization error: " ++ cause.message

def category : Fault → Category
  | .configuration _ => .configuration
  | .settingsText _ _ => .configuration
  | .badSetting _ _ _ => .configuration
  | .missingSetting _ => .configuration
  | .unbound _ => .configuration
  | .incomplete _ => .configuration
  | .boundTwice _ => .configuration
  | .unknownSource _ => .source
  | .notFound _ => .business
  | .conflict _ _ => .business
  | .refused _ => .business
  | .backend _ _ => .integration
  | .request _ => .integration
  | .sheet _ => .integration
  | .file _ => .integration
  | .table _ => .integration
  | .decoding _ => .integration

def severity (f : Fault) : Severity :=
  match f.category with
  | .business => .low
  | .integration => .medium
  | .source => .high
  | .configuration => .critical

/-- Only a fault of a system behind a source may go away by itself. -/
def isRetryable (f : Fault) : Bool := f.category == .integration

/-- The status that an answer over HTTP would have. -/
def statusCode : Fault → Nat
  | .notFound _ => 404
  | .conflict _ _ => 409
  | .refused _ => 422
  | .unknownSource _ => 400
  | f => if f.category = .integration then 503 else 500

/-- What to do about the fault. -/
def recovery : Fault → String
  | .unbound source =>
    "Add a [sources." ++ source.name ++ "] section to the router configuration"
  | .incomplete missing =>
    "Configure the missing sources (" ++ Source.listed missing ++
      ") or set router.require_all_sources = false"
  | .boundTwice _ => "Bind each source exactly once when assembling the router"
  | .unknownSource _ => "Use one of the supported sources: " ++ Source.listed Source.all
  | .notFound _ => "Check the test case id and the selected source"
  | .conflict _ _ => "Reload the test case and retry with its current state"
  | .refused _ => "Adjust the request to satisfy the rule"
  | .request _ => "Check connectivity and credentials of the backing system, then retry"
  | .backend _ _ => "Check connectivity and credentials of the backing system, then retry"
  | .sheet _ => "Check the CSV file for malformed rows"
  | .file _ => "Check that the file exists and is accessible"
  | .table _ => "Check the database file and its schema"
  | .decoding _ => "Check the payload returned by the backend"
  | .configuration _ => "Fix the configuration file and restart"
  | .settingsText _ _ => "Fix the configuration file and restart"
  | .badSetting _ _ _ => "Fix the configuration file and restart"
  | .missingSetting _ => "Fix the configuration file and restart"

/-- The message for a user. -/
def userMessage (f : Fault) : String :=
  match f.category with
  | .configuration => "Configuration problem: " ++ f.message
  | .source => f.message
  | .business => "Request rejected: " ++ f.message
  | .integration => "Backing system unavailable: " ++ f.message

end Fault

/-- The source of a name, or the fault that names it. -/
def Source.ofName (s : String) : Except Fault Source :=
  match Source.ofName? s with
  | some source => .ok source
  | none => .error (.unknownSource s)

end CaseRouting
