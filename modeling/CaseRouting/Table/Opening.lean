import CaseRouting.Files.Disk

/-!
# Opening a database

A database is opened by the path of its file. A file that is not there, or is empty, becomes a
database without rows, and so do the directories it needs. Two names stand for a database that is in
no file.
-/

namespace CaseRouting.Table

open Files (Place Tree)

/-- One name further from a place, whatever stands there. -/
def follow (p : Place) (name : String) : Place :=
  if name = "." then p else if name = ".." then p.dropLast else p ++ [name]

/-- The place of a path without a look at the tree. -/
def placeOf (t : Tree) (path : String) : Place :=
  let start := if path.toList.head? = some '/' then [] else t.workingDirectory
  (Files.pathNames path).foldl follow start

/-- A database that is in no file. -/
def isUnnamed (path : String) : Bool := path == "" || path == ":memory:"

/-- The names on the way to a place are not too long, and it can hold a file. -/
def isOpenable (t : Tree) (p : Place) : Bool :=
  p.all (fun name => name.utf8ByteSize ≤ 255) && (String.join p).utf8ByteSize + p.length ≤ 511 &&
    p != [] && t.isDirectory p.dropLast && !t.isDirectory p

/-- Makes sure that a database is at a place. -/
def openAt (path : String) (p : Place) (t : Tree) : Except Fault Tree :=
  if !isOpenable t p then .error (.table (.cannotOpen path))
  else match t.node? p with
    | some (.table _) => .ok t
    | some (.file (_ :: _)) => .error (.table .notDatabase)
    | _ => .ok (t.put p (.table ⟨[], false⟩))

/-- Opens the database in the file at the end of a path. -/
def openFile (path : String) : Action Tree (Option Place) := fun t =>
  let p := placeOf t path
  match openAt path p t with
  | .ok t => ⟨.ok (some p), t, []⟩
  | .error e => ⟨.error e, t, []⟩

/-- Opens the database of a path, and tells its place if it is in a file. -/
def openPath (path : String) : Action Tree (Option Place) := do
  match Files.parent? path with
  | some parent => if parent ≠ "" then Files.makeDirectories parent
  | none => pure ()
  if path.toList.contains '\x00' then
    let before := path.toList.takeWhile (· ≠ '\x00')
    Action.fail (.table (.nullInPath (String.ofList before).utf8ByteSize))
  if isUnnamed path then pure none else openFile path

end CaseRouting.Table
