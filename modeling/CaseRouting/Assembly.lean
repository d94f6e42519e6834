import CaseRouting.Settings.Load
import CaseRouting.Sheet.Gateway
import CaseRouting.Table.Opening
import CaseRouting.Tracker.Gateway
import CaseRouting.UseCase

/-!
# Assembly

Settings tell which sources there are. For each of them a gateway is made, and all gateways are
bound in both routers. This is the only place that knows which gateway serves which source.
-/

namespace CaseRouting

/-- Everything that a run works on: the disk, a database that is in no file, the server of the
tracker, and the clock. -/
structure Site where
  disk : Files.Tree
  unnamed : Table.Database
  server : Tracker.Server
  clock : Instant

namespace Site

def setDisk (disk : Files.Tree) (s : Site) : Site := { s with disk := disk }

def setServer (server : Tracker.Server) (s : Site) : Site := { s with server := server }

/-- The database at a place, or the one in no file. -/
def database (place : Option Files.Place) (s : Site) : Table.Database :=
  match place with
  | none => s.unnamed
  | some p =>
    match s.disk.node? p with
    | some (.table db) => db
    | _ => ⟨[], false⟩

def setDatabase (place : Option Files.Place) (db : Table.Database) (s : Site) : Site :=
  match place with
  | none => { s with unnamed := db }
  | some p =>
    match s.disk.node? p with
    | some (.table _) => { s with disk := s.disk.put p (.table db) }
    | _ => s

end Site

/-- The gateway whose commands happen at the time that the clock shows. -/
def Gateway.timed (g : Instant → Gateway Site) : Gateway Site where
  command c id := fun s => (g s.clock).command c id s
  get id := fun s => (g s.clock).get id s
  list f := fun s => (g s.clock).list f s

def sheetGateway (s : Settings.SheetSettings) : Gateway Site :=
  let (directory, file) := Files.split s.path
  .timed fun now => (Sheet.gateway (Files.below directory) file now).within Site.disk Site.setDisk

/-- The gateway to a tracker, over any way to reach its server. -/
def trackerGateway (transport : Tracker.Transport Tracker.Server) (t : Tracker.Connection) :
    Gateway Site :=
  .timed fun now => (Tracker.gatewayOver transport t now).within Site.server Site.setServer

def tableGateway (place : Option Files.Place) : Gateway Site :=
  .timed fun now =>
    (Table.gateway .never now).within (Site.database place) (Site.setDatabase place)

/-- The bindings of both routers. -/
structure GatewayBindings (σ : Type) where
  commands : Bindings (Gateway σ)
  queries : Bindings (Gateway σ)

namespace Assembly

def note (level : Log.Level) (message : String) (data : List (String × Log.Datum)) : Log.Event :=
  ⟨level, "tc_router::app::assembly", message, data⟩

/-- Sources as they are shown in diagnostics. -/
def shownSources (sources : List Source) : String :=
  "[" ++ ", ".intercalate (sources.map Source.label) ++ "]"

end Assembly

namespace GatewayBindings

variable {σ : Type}

def empty : GatewayBindings σ := ⟨Bindings.empty, Bindings.empty⟩

/-- Binds a gateway to a source in both routers. -/
def bind (b : GatewayBindings σ) (source : Source) (g : Gateway σ) :
    Action Site (GatewayBindings σ) := do
  Action.log (Assembly.note .debug "Binding gateway" [("source", .shown source.name)])
  pure ⟨b.commands.bind source g, b.queries.bind source g⟩

def build (b : GatewayBindings σ) : Action Site (Routers σ) := do
  let commands ← Action.ofExcept b.commands.build
  let queries ← Action.ofExcept b.queries.build
  pure ⟨commands, queries⟩

/-- Routers that need not serve every source, with warnings for those they do not. -/
def buildPartial (b : GatewayBindings σ) : Action Site (Routers σ) := do
  let commands ← Action.ofExcept b.commands.buildPartial
  Action.logAll commands.warnings
  let queries ← Action.ofExcept b.queries.buildPartial
  Action.logAll queries.warnings
  pure ⟨commands, queries⟩

end GatewayBindings

namespace Assembly

def bindSheet (s : Settings) (b : GatewayBindings Site) : Action Site (GatewayBindings Site) :=
  match s.sources.sheet with
  | none => pure b
  | some sheet => do
    Action.log (note .info "Assembling CSV gateway" [("path", .shown sheet.path)])
    b.bind .sheet (sheetGateway sheet)

def bindTracker (transport : Tracker.Transport Tracker.Server) (s : Settings)
    (b : GatewayBindings Site) : Action Site (GatewayBindings Site) :=
  match s.sources.tracker with
  | none => pure b
  | some tracker => do
    Action.log (note .info "Assembling Jira gateway"
      [("base_url", .shown tracker.baseUrl), ("project", .shown tracker.projectKey)])
    let t ← Action.ofExcept (Tracker.connect tracker)
    b.bind .tracker (trackerGateway transport t)

def bindTable (s : Settings) (b : GatewayBindings Site) : Action Site (GatewayBindings Site) :=
  match s.sources.database with
  | none => pure b
  | some database => do
    Action.log (note .info "Assembling database gateway" [("path", .shown database.path)])
    let place ← (Table.openPath database.path).within Site.disk Site.setDisk
    b.bind .database (tableGateway place)

end Assembly

/-- Makes the gateways that are configured, and the routers that serve them. Requests to the tracker
go the given way. -/
def assembleOver (transport : Tracker.Transport Tracker.Server) (s : Settings) :
    Action Site (Routers Site) := do
  let bindings ← Assembly.bindSheet s GatewayBindings.empty
  let bindings ← Assembly.bindTracker transport s bindings
  let bindings ← Assembly.bindTable s bindings
  let routers ← if s.router.requireAllSources then bindings.build else bindings.buildPartial
  Action.log (Assembly.note .info "Gateway routers assembled"
    [("sources", .shown (Assembly.shownSources routers.commands.slots.bound))])
  pure routers

end CaseRouting
