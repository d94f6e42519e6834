import CaseRouting.TestCase.Exchange

/-!
# Settings

Which sources are configured and how, and what is logged. Settings are documents of their own; parts
that are left out have defaults.
-/

namespace CaseRouting

open Json (Value)
open Decode

namespace Settings

structure SheetSettings where
  path : String
  deriving DecidableEq

structure TrackerSettings where
  baseUrl : String
  projectKey : String
  username : Option String
  apiToken : Option String
  timeoutSeconds : Option Nat
  maxResults : Option Nat
  activateTransition : String
  deactivateTransition : String
  activeStatus : Option String
  deprecatedStatus : Option String
  deriving DecidableEq

structure DatabaseSettings where
  path : String
  deriving DecidableEq

structure LogSettings where
  level : Option String
  json : Option Bool
  deriving DecidableEq

structure RouterSettings where
  requireAllSources : Bool
  deriving DecidableEq

structure SourceSettings where
  sheet : Option SheetSettings
  tracker : Option TrackerSettings
  database : Option DatabaseSettings
  deriving DecidableEq

end Settings

/-- The whole configuration. -/
structure Settings where
  router : Settings.RouterSettings
  logging : Option Settings.LogSettings
  sources : Settings.SourceSettings
  deriving DecidableEq

namespace Settings

namespace SheetSettings

def decoder : Decoder SheetSettings :=
  record "CsvSourceConfig" ((Fields.of SheetSettings.mk) |>.field (required "path" text))

def toJson (s : SheetSettings) : Value := .object [("path", .text s.path)]

end SheetSettings

namespace TrackerSettings

def fields : Fields TrackerSettings :=
  (Fields.of TrackerSettings.mk)
    |>.field (required "base_url" text)
    |>.field (required "project_key" text)
    |>.field (nullable "username" text)
    |>.field (nullable "api_token" text)
    |>.field (nullable "timeout_seconds" (natural (Nat.pow 2 64) "u64"))
    |>.field (nullable "max_results" (natural (Nat.pow 2 32) "u32"))
    |>.field (required "activate_transition_id" text)
    |>.field (required "deactivate_transition_id" text)
    |>.field (nullable "active_status" text)
    |>.field (nullable "deprecated_status" text)

def decoder : Decoder TrackerSettings := record "JiraSourceConfig" fields

def toJson (s : TrackerSettings) : Value :=
  let count (n : Nat) : Value := .whole (n : Int)
  .object [
    ("base_url", .text s.baseUrl),
    ("project_key", .text s.projectKey),
    ("username", Value.option .text s.username),
    ("api_token", Value.option .text s.apiToken),
    ("timeout_seconds", Value.option count s.timeoutSeconds),
    ("max_results", Value.option count s.maxResults),
    ("activate_transition_id", .text s.activateTransition),
    ("deactivate_transition_id", .text s.deactivateTransition),
    ("active_status", Value.option .text s.activeStatus),
    ("deprecated_status", Value.option .text s.deprecatedStatus)]

def timeout (s : TrackerSettings) : Nat := s.timeoutSeconds.getD 30

def pageLimit (s : TrackerSettings) : Nat := s.maxResults.getD 100

def activeName (s : TrackerSettings) : String := s.activeStatus.getD "Active"

def deprecatedName (s : TrackerSettings) : String := s.deprecatedStatus.getD "Deprecated"

end TrackerSettings

namespace DatabaseSettings

def decoder : Decoder DatabaseSettings :=
  record "DatabaseSourceConfig" ((Fields.of DatabaseSettings.mk) |>.field (required "path" text))

def toJson (s : DatabaseSettings) : Value := .object [("path", .text s.path)]

end DatabaseSettings

namespace LogSettings

def decoder : Decoder LogSettings :=
  record "LoggingConfig" ((Fields.of LogSettings.mk)
    |>.field (nullable "level" text)
    |>.field (nullable "json" bool))

def toJson (s : LogSettings) : Value :=
  .object [("level", Value.option .text s.level), ("json", Value.option .bool s.json)]

end LogSettings

namespace RouterSettings

def decoder : Decoder RouterSettings :=
  record "RouterSection"
    ((Fields.of RouterSettings.mk) |>.field (defaulted "require_all_sources" true bool))

def toJson (s : RouterSettings) : Value :=
  .object [("require_all_sources", .bool s.requireAllSources)]

end RouterSettings

namespace SourceSettings

def none : SourceSettings := ⟨.none, .none, .none⟩

def decoder : Decoder SourceSettings :=
  record "SourcesConfig" ((Fields.of SourceSettings.mk)
    |>.field (nullable "csv" SheetSettings.decoder)
    |>.field (nullable "jira" TrackerSettings.decoder)
    |>.field (nullable "database" DatabaseSettings.decoder))

def toJson (s : SourceSettings) : Value := .object [
  ("csv", Value.option SheetSettings.toJson s.sheet),
  ("jira", Value.option TrackerSettings.toJson s.tracker),
  ("database", Value.option DatabaseSettings.toJson s.database)]

end SourceSettings

def decoder : Decoder Settings :=
  record "RouterConfig" ((Fields.of Settings.mk)
    |>.field (defaulted "router" ⟨true⟩ RouterSettings.decoder)
    |>.field (defaulted "logging" .none (optional LogSettings.decoder))
    |>.field (defaulted "sources" .none SourceSettings.decoder))

def toJson (s : Settings) : Value := .object [
  ("router", s.router.toJson),
  ("logging", Value.option LogSettings.toJson s.logging),
  ("sources", s.sources.toJson)]

/-- The sources that have a section, in the order of their slots. -/
def configured (s : Settings) : List Source :=
  Source.all.filter fun
    | .sheet => s.sources.sheet.isSome
    | .tracker => s.sources.tracker.isSome
    | .database => s.sources.database.isSome

def jsonLogs (s : Settings) : Bool := (s.logging.bind LogSettings.json).getD false

def logLevel (s : Settings) : Option String := s.logging.bind LogSettings.level

end Settings

end CaseRouting
