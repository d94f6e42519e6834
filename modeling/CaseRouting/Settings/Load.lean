import CaseRouting.Files.Tree
import CaseRouting.Log.Filter
import CaseRouting.Settings.Basic
import CaseRouting.Settings.Validation
import CaseRouting.Toml.Reader

/-!
# Loading settings

Settings are read from text in which references to the environment have been replaced by their
values, and are checked as a whole before they are used.
-/

namespace CaseRouting

/-- The variables of the environment and their values. -/
abbrev Environment := List (String × String)

namespace Settings

def lookUp (env : Environment) (name : List Char) : Option (List Char) :=
  (env.find? (·.1.toList == name)).map (·.2.toList)

/-- A reference after its opening brace: its name, and the text after its closing brace. -/
def reference? (cs : List Char) : Option (List Char × List Char) :=
  let name := cs.takeWhile (· ≠ '\x7d')
  match cs.drop name.length with
  | _ :: rest => if name.isEmpty then none else some (name, rest)
  | [] => none

theorem reference?_length {cs name rest : List Char} (h : reference? cs = some (name, rest)) :
    rest.length < cs.length := by
  simp only [reference?] at h
  split at h
  · rename_i c more he
    split at h
    · exact absurd h (by simp)
    · injection h with h
      injection h with _ h
      subst h
      have := congrArg List.length he
      simp only [List.length_drop, List.length_cons] at this
      omega
  · exact absurd h (by simp)

/-- The text with each reference to a variable that is set replaced by its value. References to
other variables stay as they are, and values are not searched for references. -/
def substitute (env : Environment) : List Char → List Char
  | '$' :: '\x7b' :: rest =>
    match _h : reference? rest with
    | some (name, after) =>
      (lookUp env name).getD ('$' :: '\x7b' :: name ++ ['\x7d']) ++ substitute env after
    | none => '$' :: substitute env ('\x7b' :: rest)
  | c :: rest => c :: substitute env rest
  | [] => []
termination_by cs => cs.length
decreasing_by
  all_goals simp_wf
  · have := reference?_length _h
    omega

/-- Only a few faults of settings are told in words. All others, an error of syntax among them, are
told as a placeholder, for the words of the parser are not modelled. -/
def faultText : DecodeError → String
  | .wrongType found expected => (DecodeError.wrongType found expected).message
  | .wrongValue found expected => (DecodeError.wrongValue found expected).message
  | .missingField name => (DecodeError.missingField name).message
  | _ => "<syntax>"

def unreadable (message : String) : Fault :=
  .settingsText "toml_parsing" ("TOML parsing error: " ++ message)

/-- The settings of a text without references. -/
def ofText (s : String) : Except Fault Settings :=
  match Toml.read? s with
  | none => .error (unreadable (faultText .malformed))
  | some d =>
    match decoder .settings d with
    | .ok settings => .ok settings
    | .error e => .error (unreadable (faultText e))

/-- The settings of a text. -/
def parse (env : Environment) (s : String) : Except Fault Settings :=
  ofText (.ofList (substitute env s.toList))

/-- The settings in a file. -/
def load (env : Environment) (disk : Files.Tree) (path : String) : Except Fault Settings :=
  match disk.readText path with
  | .ok s => parse env s
  | .error e => .error (.configuration ("cannot read " ++ path ++ ": " ++ e.message))

def checkSheet (s : SheetSettings) : Except Fault Unit := do
  checkPath "sources.csv.path" s.path
  checkExtension "sources.csv.path" s.path ["csv"]

def checkTracker (s : TrackerSettings) : Except Fault Unit := do
  let _ ← checkBaseUrl "sources.jira.base_url" s.baseUrl
  checkNotBlank "sources.jira.project_key" s.projectKey
  checkNotBlank "sources.jira.activate_transition_id" s.activateTransition
  checkNotBlank "sources.jira.deactivate_transition_id" s.deactivateTransition
  checkRange "sources.jira.timeout_seconds" s.timeout 1 300
  checkRange "sources.jira.max_results" s.pageLimit 1 1000
  if s.username.isSome then
    let _ ← checkPresent "sources.jira.api_token" s.apiToken

def checkDatabase (s : DatabaseSettings) : Except Fault Unit :=
  checkPath "sources.database.path" s.path

def checkLevel (level : String) : Except Fault Unit :=
  match Log.Filter.parse? level with
  | some _ => .ok ()
  | none => .error (.badSetting "logging.level" level "not a valid log filter directive")

/-- Applies a check to a section that may be absent. -/
def checkSection {α : Type} (check : α → Except Fault Unit) : Option α → Except Fault Unit
  | some a => check a
  | none => .ok ()

/-- Checks settings as a whole: some source is configured, and each section is in order. -/
def validate (s : Settings) : Except Fault Unit := do
  if s.configured.isEmpty then throw (.missingSetting "sources")
  checkSection checkSheet s.sources.sheet
  checkSection checkTracker s.sources.tracker
  checkSection checkDatabase s.sources.database
  checkSection checkLevel s.logLevel

end Settings

end CaseRouting
