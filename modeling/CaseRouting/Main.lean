import CaseRouting.Session
import Std.Time.DateTime

/-!
# The program

Brings the files that a session needs from the real disk, runs the session, and brings what it
changed back. No database engine and no network are at hand: a database file with content is
refused, a new database lasts as long as the run, and no server of a tracker listens.
-/

namespace CaseRouting.Main

open Files (Place Tree)

/-- The variables of this process. -/
def readEnvironment : IO Environment := do
  let text ← try IO.FS.readFile "/proc/self/environ" catch _ => pure ""
  pure <| (text.splitOn "\x00").filterMap fun entry =>
    match entry.splitOn "=" with
    | name :: value => if name.isEmpty then none else some (name, "=".intercalate value)
    | [] => none

/-- The present time. -/
def readClock : IO Instant := do
  let stamp ← Std.Time.Timestamp.now
  let time := Std.Time.PlainDateTime.ofWallTime (.ofTimestamp stamp Std.Time.TimeZone.Offset.zero)
  let date := Date.make? time.year.toInt time.month.toNat time.day.toNat
  let timeOfDay := TimeOfDay.make? time.hour.toNat time.minute.toNat time.second.toNat
    time.nanosecond.toNat
  match date, timeOfDay with
  | some date, some timeOfDay => pure ⟨date, timeOfDay⟩
  | _, _ => throw (IO.userError "the clock cannot be read")

/-- The directories on the way to the working directory. -/
def emptyTree (workingDirectory : Place) : Tree where
  nodes := (List.range workingDirectory.length).map fun n =>
    (workingDirectory.take (n + 1), .directory)
  workingDirectory := workingDirectory

/-- Brings what stands at the end of a path, if anything does. -/
def fetch (t : Tree) (path : String) : IO Tree := do
  try
    if ← (← IO.FS.realPath path).isDir then pure (Files.makeDirectories path t).state
    else
      let content := (← IO.FS.readBinFile path).toList
      let put : Action Tree Unit := do
        Files.makeParents path
        Files.replacing fun t => t.overwrite path content
      pure (put t).state
  catch _ => pure t

/-- The paths that a session with these settings looks at. -/
def pathsOf (s : Settings) : List String :=
  let sheet := (s.sources.sheet.map fun sheet => sheet.path).toList
  let database := (s.sources.database.map fun database => database.path).toList
  sheet ++ sheet.map (Files.withExtension "tmp") ++ database

/-- Brings everything that a session with these arguments looks at. -/
def readSite (env : Environment) (args : List String) : IO Site := do
  let empty := emptyTree (Files.pathNames (← IO.currentDir).toString)
  let disk ← match CommandLine.parse args with
    | .error _ => pure empty
    | .ok a => do
      let disk ← fetch empty a.config
      match Settings.load env disk a.config with
      | .error _ => pure disk
      | .ok s => (pathsOf s).foldlM fetch disk
  pure ⟨disk, ⟨[], false⟩, ⟨false, [], []⟩, ← readClock⟩

def pathText (p : Place) : String := "/" ++ "/".intercalate p

/-- Brings the files and directories that are not as they were back to the real disk. -/
def writeBack (before after : Tree) : IO Unit := do
  for (p, node) in after.nodes do
    if before.node? p ≠ some node then
      match node with
      | .directory => IO.FS.createDirAll (pathText p)
      | .file content => IO.FS.writeBinFile (pathText p) (ByteArray.mk content.toArray)
      | .table _ => pure ()
  for (p, _) in before.nodes do
    if (after.node? p).isNone then IO.FS.removeFile (pathText p)

def usageText : String :=
  "Usage: tc-router [--config FILE] [--verbose] [--json-logs] COMMAND [OPTIONS]\n" ++
    "Commands: activate, deactivate, update, get, list, help\n"

end CaseRouting.Main

open CaseRouting in
def main (args : List String) : IO UInt32 := do
  let env ← Main.readEnvironment
  let site ← Main.readSite env args
  match Session.run Tracker.send env args site with
  | .error fault =>
    IO.eprint Main.usageText
    pure (Session.usageExitCode fault).toUInt32
  | .ok report =>
    Main.writeBack site.disk report.site.disk
    IO.print report.output
    IO.eprint report.errorOutput
    pure report.exitCode.toUInt32
