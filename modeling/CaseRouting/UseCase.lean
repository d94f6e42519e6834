import CaseRouting.Gateway
import CaseRouting.Request
import CaseRouting.Routing
import CaseRouting.Text.Quoted

/-!
# Use cases

What the program can be asked to do. A use case finds the gateway for the source of its request,
calls it once, and tells in the log how far it came. Its faults are those of the router and of the
gateway, except that an update must change something.
-/

namespace CaseRouting

inductive UseCase where
  | activate
  | deactivate
  | update
  | get
  | list
  deriving DecidableEq

namespace UseCase

def title : UseCase → String
  | .activate => "Activate test case"
  | .deactivate => "Deactivate test case"
  | .update => "Update test case"
  | .get => "Get test case"
  | .list => "List test cases"

/-- The part of the program that logs for a use case. -/
def target : UseCase → String
  | .activate | .deactivate | .update => "tc_router::app::interactors"
  | .get | .list => "tc_router::app::queries"

/-- How far a use case came. -/
inductive Stage where
  | started
  | received
  | resolved
  | executed
  | done
  | rejected
  | failed
  deriving DecidableEq

def Stage.text : Stage → String
  | .started => "started"
  | .received => "received"
  | .resolved => "gateway resolved"
  | .executed => "executed"
  | .done => "done"
  | .rejected => "rejected"
  | .failed => "failed"

def message (u : UseCase) (stage : Stage) : String := u.title ++ ": " ++ stage.text ++ "."

def event (u : UseCase) (level : Log.Level) (stage : Stage) (data : List (String × Log.Datum)) :
    Log.Event :=
  ⟨level, u.target, u.message stage, data⟩

/-- A request that breaks a rule is no failure of the program. -/
def failure (u : UseCase) (f : Fault) : Log.Event :=
  let error := ("error", Log.Datum.shown f.message)
  if f.category = .business then
    ⟨.info, "tc_router::app", u.message .rejected, [("use_case", .quoted u.title), error]⟩
  else
    ⟨.error, "tc_router::app", u.message .failed,
      [("use_case", .quoted u.title), ("category", .shown f.category.name), error]⟩

end UseCase

def Command.useCase : Command → UseCase
  | .activate => .activate
  | .deactivate => .deactivate
  | .update _ => .update

/-- A command that would change nothing is refused before it is routed. -/
def Command.check : Command → Except Fault Unit
  | .update changes =>
    if changes.isEmpty then .error (.refused "update must change at least one field") else .ok ()
  | _ => .ok ()

/-- What the log tells of a command that is done. -/
def Command.summary (command : Command) (c : TestCase) : List (String × Log.Datum) :=
  ("test_case_id", .shown c.id) ::
    match command with
    | .update _ => []
    | _ => [("status", .shown c.status.name)]

/-- The filter as it is shown in diagnostics. -/
def Filter.shown (f : Filter) : String :=
  "TestCaseFilter \x7b status: " ++ Text.shownOption Status.label f.status ++
    ", label: " ++ Text.shownOption Text.quoted f.label ++
    ", title_contains: " ++ Text.shownOption Text.quoted f.titleContains ++
    ", limit: " ++ Text.shownOption toString f.limit ++ " \x7d"

/-- The routers for commands and for queries. -/
structure Routers (σ : Type) where
  commands : Router (Gateway σ)
  queries : Router (Gateway σ)

namespace Routers

variable {σ : Type}

def sourceDatum (source : Source) : String × Log.Datum := ("source", .shown source.name)

/-- Carries out a command on the test case of its source. -/
def carryOut (routers : Routers σ) (command : Command) (source : Source) (id : String) :
    Action σ TestCase :=
  let u := command.useCase
  Action.reporting u.failure do
    Action.log (u.event .debug .received [sourceDatum source, ("test_case_id", .shown id)])
    Action.ofExcept command.check
    let gateway ← Action.ofExcept (routers.commands.select source)
    Action.log (u.event .debug .resolved [sourceDatum source])
    let c ← gateway.command command id
    Action.log (u.event .debug .executed [sourceDatum source])
    Action.log (u.event .info .done (sourceDatum source :: command.summary c))
    pure c

def activate (routers : Routers σ) (r : CaseRequest) : Action σ Receipt := do
  let c ← routers.carryOut .activate r.source r.id
  pure c.receipt

def deactivate (routers : Routers σ) (r : CaseRequest) : Action σ Receipt := do
  let c ← routers.carryOut .deactivate r.source r.id
  pure c.receipt

def update (routers : Routers σ) (r : UpdateRequest) : Action σ TestCase :=
  routers.carryOut (.update r.changes) r.source r.id

def get (routers : Routers σ) (r : CaseRequest) : Action σ TestCase := do
  let u := UseCase.get
  Action.log (u.event .info .started [sourceDatum r.source, ("test_case_id", .shown r.id)])
  let c ← Action.reporting u.failure do
    let gateway ← Action.ofExcept (routers.queries.select r.source)
    gateway.get r.id
  Action.log (u.event .info .done
    [sourceDatum r.source, ("test_case_id", .shown c.id), ("title", .shown c.title)])
  pure c

def list (routers : Routers σ) (r : ListRequest) : Action σ Listing := do
  let u := UseCase.list
  Action.log (u.event .info .started [sourceDatum r.source, ("filter", .shown r.filter.shown)])
  let cs ← Action.reporting u.failure do
    let gateway ← Action.ofExcept (routers.queries.select r.source)
    gateway.list r.filter
  Action.log (u.event .info .done [sourceDatum r.source, ("total", .count cs.length)])
  pure ⟨r.source, cs, cs.length⟩

end Routers

end CaseRouting
