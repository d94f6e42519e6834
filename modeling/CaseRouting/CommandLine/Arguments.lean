import CaseRouting.CommandLine.Option
import CaseRouting.TestCase.Basic
import CaseRouting.Text.Quoted

/-!
# The command line

Where the settings are, how much is logged, and one command with what it needs. Names of sources and
of statuses are taken as they come: whether they mean something is found out later.
-/

namespace CaseRouting.CommandLine

/-- A test case by the name of its source and its id. -/
structure Target where
  source : String
  id : String
  deriving DecidableEq

structure ListArguments where
  source : String
  status : Option String
  label : Option String
  titleContains : Option String
  limit : Option Nat
  deriving DecidableEq

inductive Task where
  | activate (target : Target)
  | deactivate (target : Target)
  | update (target : Target) (changes : Changes)
  | get (target : Target)
  | list (arguments : ListArguments)
  deriving DecidableEq

structure Arguments where
  config : String
  verbose : Bool
  jsonLogs : Bool
  task : Task
  deriving DecidableEq

/-! ## Reading -/

def helpOption : OptionSpec := ⟨"help", some 'h', .help⟩

def sourceOption : OptionSpec := ⟨"source", some 's', .value .text⟩

def idOption : OptionSpec := ⟨"id", none, .value .text⟩

def textOption (name : String) : OptionSpec := ⟨name, none, .value .text⟩

/-- The level at which a command line begins. -/
def topLevel : Level where
  options := [⟨"config", some 'c', .value .path⟩, ⟨"verbose", none, .nothing⟩,
    ⟨"json-logs", none, .nothing⟩, helpOption]
  commands := ["activate", "deactivate", "update", "get", "list", "help"]

def targetLevel : Level := ⟨[sourceOption, idOption, helpOption], []⟩

def updateLevel : Level where
  options := [sourceOption, idOption, textOption "title", textOption "priority",
    ⟨"labels", none, .values⟩, helpOption]
  commands := []

def listLevel : Level where
  options := [sourceOption, textOption "status", textOption "label", textOption "title-contains",
    ⟨"limit", none, .value .count⟩, helpOption]
  commands := []

/-- The options of a level without commands. -/
def readOptions (level : Level) (args : List String) : Except UsageFault Progress := do
  let (p, _) ← level.read .start args
  p.settle

def required (p : Progress) (name : String) : Except UsageFault String :=
  match p.value? name with
  | some value => .ok value
  | none => .error .missingArgument

def readTarget (p : Progress) : Except UsageFault Target := do
  let source ← required p "source"
  let id ← required p "id"
  pure ⟨source, id⟩

/-- The fault with which help is shown, or refused for what is no command. -/
def readHelp : List String → UsageFault
  | [] => .help
  | [command] => if topLevel.commands.contains command then .help else .unknownCommand
  | _ => .unknownCommand

def readTask (command : String) (args : List String) : Except UsageFault Task :=
  match command with
  | "activate" => do return .activate (← readTarget (← readOptions targetLevel args))
  | "deactivate" => do return .deactivate (← readTarget (← readOptions targetLevel args))
  | "get" => do return .get (← readTarget (← readOptions targetLevel args))
  | "update" => do
    let p ← readOptions updateLevel args
    let target ← readTarget p
    pure (.update target ⟨p.value? "title", p.value? "priority", p.values? "labels"⟩)
  | "list" => do
    let p ← readOptions listLevel args
    let source ← required p "source"
    pure (.list ⟨source, p.value? "status", p.value? "label", p.value? "title-contains",
      (p.value? "limit").bind fun s => Text.natural? s.toList⟩)
  | _ => .error (readHelp args)

/-- Reads a command line. -/
def parse (args : List String) : Except UsageFault Arguments := do
  match ← topLevel.read .start args with
  | (p, some (command, rest)) =>
    let task ← readTask command rest
    let p ← p.settle
    pure ⟨(p.value? "config").getD "tc-router.toml", p.has "verbose", p.has "json-logs", task⟩
  | (p, none) =>
    let p ← p.settle
    throw (if p.given.isEmpty then .nothingGiven else .missingCommand)

/-! ## Diagnostics -/

def Target.shown (t : Target) : String :=
  "TargetArgs \x7b source: " ++ Text.quoted t.source ++ ", id: " ++ Text.quoted t.id ++ " \x7d"

def shownTexts (texts : List String) : String :=
  "[" ++ ", ".intercalate (texts.map Text.quoted) ++ "]"

def Task.shown : Task → String
  | .activate t => "Activate(" ++ t.shown ++ ")"
  | .deactivate t => "Deactivate(" ++ t.shown ++ ")"
  | .get t => "Get(" ++ t.shown ++ ")"
  | .update t changes =>
    "Update(UpdateArgs \x7b target: " ++ t.shown ++
      ", title: " ++ Text.shownOption Text.quoted changes.title ++
      ", priority: " ++ Text.shownOption Text.quoted changes.priority ++
      ", labels: " ++ Text.shownOption shownTexts changes.labels ++ " \x7d)"
  | .list a =>
    "List(ListArgs \x7b source: " ++ Text.quoted a.source ++
      ", status: " ++ Text.shownOption Text.quoted a.status ++
      ", label: " ++ Text.shownOption Text.quoted a.label ++
      ", title_contains: " ++ Text.shownOption Text.quoted a.titleContains ++
      ", limit: " ++ Text.shownOption toString a.limit ++ " \x7d)"

/-- The arguments as they are shown in diagnostics. -/
def Arguments.shown (a : Arguments) : String :=
  "CliArgs \x7b config: " ++ Text.quotedPath a.config ++ ", verbose: " ++ toString a.verbose ++
    ", json_logs: " ++ toString a.jsonLogs ++ ", command: " ++ a.task.shown ++ " \x7d"

end CaseRouting.CommandLine
