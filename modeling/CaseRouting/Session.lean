import CaseRouting.Assembly
import CaseRouting.CommandLine.Arguments
import CaseRouting.Log.Line

/-!
# Sessions

A session is one run from the command line: settings are loaded and checked, the gateways are
assembled, and one request is made. Its exit code tells whether the request was answered, and if
not, which category of fault came first. What becomes of requests to the tracker is up to the
transport.
-/

namespace CaseRouting

open CommandLine (Arguments Task ListArguments UsageFault)
open Json (Value)
open Tracker (Server Transport)

namespace Session

/-- A run that ended, with what it wrote to both outputs and left behind. -/
structure Report where
  exitCode : Nat
  output : String
  errorOutput : String
  site : Site

def exitCode (f : Fault) : Nat :=
  match f.severity with
  | .low => 4
  | .medium => 2
  | .high => 1
  | .critical => 3

/-- The code of a run that does not get beyond its command line. -/
def usageExitCode : UsageFault → Nat
  | .help => 0
  | _ => 2

def listRequest (a : ListArguments) : Except Fault ListRequest := do
  let source ← Source.ofName a.source
  let status ← match a.status with
    | none => pure none
    | some raw =>
      match Status.ofCell? raw with
      | some status => pure (some status)
      | none => throw (.refused ("unknown status filter '" ++ raw ++ "'"))
  pure ⟨⟨status, a.label, a.titleContains, a.limit⟩, source⟩

/-- Makes the request of a command line. -/
def answer (routers : Routers Site) : Task → Action Site Value
  | .activate t => do
    let source ← Action.ofExcept (Source.ofName t.source)
    return (← routers.activate ⟨t.id, source⟩).toJson
  | .deactivate t => do
    let source ← Action.ofExcept (Source.ofName t.source)
    return (← routers.deactivate ⟨t.id, source⟩).toJson
  | .update t changes => do
    let source ← Action.ofExcept (Source.ofName t.source)
    return (← routers.update ⟨t.id, changes, source⟩).toJson
  | .get t => do
    let source ← Action.ofExcept (Source.ofName t.source)
    return (← routers.get ⟨t.id, source⟩).toJson
  | .list a => do
    let request ← Action.ofExcept (listRequest a)
    return (← routers.list request).toJson

def note (level : Log.Level) (message : String) : Log.Event := ⟨level, "tc_router", message, []⟩

/-- Checks the settings, assembles the gateways and makes the request. -/
def work (transport : Transport Server) (a : Arguments) (s : Settings) : Action Site Value := do
  Action.log (note .info "Starting tc-router CLI")
  if a.verbose then Action.log (note .debug ("CLI args: " ++ a.shown))
  Action.ofExcept s.validate
  let routers ← assembleOver transport s
  answer routers a.task

/-- What the log tells of a fault that ends a run. -/
def lastWords (f : Fault) : List Log.Event := [
  note .error ("❌ " ++ f.message ++ " (Category: " ++ f.category.name ++ ", Severity: " ++
    f.severity.name ++ ")"),
  note .error ("💡 Recovery suggestion: " ++ f.recovery)]

/-- What a user is told of a fault that ends a run. -/
def advice (f : Fault) : String := "❌ " ++ f.userMessage ++ "\n💡 " ++ f.recovery ++ "\n"

def logText (filter : Log.Filter) (layout : Log.Layout) (now : Instant)
    (events : List Log.Event) : String :=
  String.join ((events.filter filter.admits).map (Log.Event.line layout now))

/-- A run whose settings could be loaded. -/
def runWith (transport : Transport Server) (env : Environment) (a : Arguments) (s : Settings)
    (site : Site) : Report :=
  let environmentFilter := (env.find? (·.1 == "RUST_LOG")).map (·.2)
  let filter := Log.Filter.choose environmentFilter s.logLevel a.verbose
  let layout : Log.Layout := if a.jsonLogs || s.jsonLogs then .json else .plain
  let done := work transport a s site
  match done.result with
  | .ok v =>
    ⟨0, logText filter layout site.clock done.events ++ v.indented ++ "\n", "", done.state⟩
  | .error f =>
    let events := done.events ++ lastWords f
    ⟨exitCode f, logText filter layout site.clock events, advice f, done.state⟩

/-- A run whose command line could be read. -/
def runArguments (transport : Transport Server) (env : Environment) (a : Arguments) (site : Site) :
    Report :=
  match Settings.load env site.disk a.config with
  | .ok s => runWith transport env a s site
  | .error f =>
    ⟨exitCode f, "", "❌ Failed to load " ++ a.config ++ ": " ++ f.message ++ "\n", site⟩

/-- A run from a command line in an environment. -/
def run (transport : Transport Server) (env : Environment) (args : List String) (site : Site) :
    Except UsageFault Report :=
  (CommandLine.parse args).map fun a => runArguments transport env a site

end Session

end CaseRouting
