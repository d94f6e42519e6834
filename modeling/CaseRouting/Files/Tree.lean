import CaseRouting.Files.Path
import CaseRouting.Files.Storage
import CaseRouting.Table.Gateway

/-!
# Trees of files

What stands where on a disk, and how a path leads from the working directory to a place. A tree is
changed by putting something at a place, by clearing a place, and by nothing else.
-/

namespace CaseRouting.Files

/-- The names on the way from the root to a place. -/
abbrev Place := List String

inductive Node where
  | directory
  | file (content : Bytes)
  | table (content : Table.Database)
  deriving DecidableEq

/-- A database as bytes: its signature, and a byte for all the rest, which is no text. -/
def tableBytes : Bytes := Text.bytesOf "SQLite format 3\x00" ++ [0xFF]

structure Tree where
  nodes : List (Place × Node)
  workingDirectory : Place
  deriving DecidableEq

namespace Tree

/-- What stands at a place. The root is always there. -/
def node? (t : Tree) (p : Place) : Option Node :=
  if p = [] then some .directory else (t.nodes.find? (·.1 == p)).map (·.2)

def isDirectory (t : Tree) (p : Place) : Bool := t.node? p == some .directory

def clear (t : Tree) (p : Place) : Tree := { t with nodes := t.nodes.filter (·.1 != p) }

def put (t : Tree) (p : Place) (n : Node) : Tree :=
  { t.clear p with nodes := (t.clear p).nodes ++ [(p, n)] }

theorem node?_clear (t : Tree) (p q : Place) :
    (t.clear p).node? q =
      if q = [] then some .directory else if q = p then none else t.node? q := by
  by_cases hq : q = []
  · simp [node?, hq]
  · simp only [node?, clear, hq, if_false, List.find?_filter]
    by_cases h : q = p
    · subst h
      simp
    · rw [if_neg h]
      congr 2
      funext x
      by_cases hx : x.1 = q
      · simp [hx, h]
      · simp [hx]

theorem node?_put (t : Tree) (p q : Place) (n : Node) :
    (t.put p n).node? q =
      if q = [] then some .directory else if q = p then some n else t.node? q := by
  by_cases hq : q = []
  · simp [node?, hq]
  · have hc := node?_clear t p q
    simp only [node?, hq, if_false] at hc ⊢
    simp only [put, List.find?_append, Option.map_or, hc]
    by_cases h : q = p
    · subst h
      simp
    · have : p ≠ q := fun e => h e.symm
      simp only [List.find?_cons, List.find?_nil, beq_eq_false_iff_ne.mpr this, h, if_false,
        Option.map_none]
      cases Option.map (fun x => x.snd) (List.find? (fun x => x.fst == q) t.nodes) <;> rfl

end Tree

/-! ## Following a path -/

/-- Where a path begins, the names on it, and whether a slash ends it. -/
structure Route where
  start : Place
  names : List String
  closed : Bool
  deriving DecidableEq

/-- The names of a path. Nothing between two slashes is no name. -/
def pathNames (path : String) : List String :=
  ((path.toList.splitOn '/').filter (!·.isEmpty)).map String.ofList

namespace Tree

/-- Reads a path, which has less than 4096 bytes. -/
def route (t : Tree) (path : String) : Except FileError Route :=
  if path.toList.contains '\x00' then .error .nullInName
  else if path.isEmpty then .error .absent
  else if 4096 ≤ path.utf8ByteSize then .error .nameTooLong
  else .ok {
    start := if path.toList.head? = some '/' then [] else t.workingDirectory
    names := pathNames path
    closed := path.toList.getLast? = some '/' }

/-- A name has at most 255 bytes. -/
def checkName (name : String) : Except FileError Unit :=
  if 255 < name.utf8ByteSize then .error .nameTooLong else .ok ()

/-- One name further from a place. -/
def step (t : Tree) (p : Place) (name : String) : Except FileError Place :=
  if !t.isDirectory p then .error .notDirectory
  else if name = "." then .ok p
  else if name = ".." then .ok p.dropLast
  else do
    checkName name
    if (t.node? (p ++ [name])).isSome then .ok (p ++ [name]) else .error .absent

def walk (t : Tree) (p : Place) (names : List String) : Except FileError Place :=
  names.foldlM t.step p

/-- The place of what stands at the end of a path. -/
def locate (t : Tree) (path : String) : Except FileError Place := do
  let r ← t.route path
  let p ← t.walk r.start r.names
  if r.closed && !t.isDirectory p then .error .notDirectory else .ok p

/-- What stands at the end of a path. -/
def find (t : Tree) (path : String) : Except FileError Node := do
  let p ← t.locate path
  match t.node? p with
  | some n => .ok n
  | none => .error .absent

def leadsToDirectory (t : Tree) (path : String) : Bool :=
  match t.find path with
  | .ok .directory => true
  | _ => false

/-- The end of a path, where there may be nothing yet: a directory, the name in it unless the path
ends with dots, and whether a slash follows. -/
structure Target where
  directory : Place
  name : Option String
  closed : Bool
  deriving DecidableEq

def target (t : Tree) (path : String) : Except FileError Target := do
  let r ← t.route path
  match r.names.getLast? with
  | none => .ok ⟨r.start, none, r.closed⟩
  | some last =>
    let p ← t.walk r.start r.names.dropLast
    if !t.isDirectory p then .error .notDirectory
    else if last = "." ∨ last = ".." then .ok ⟨p, none, r.closed⟩
    else .ok ⟨p, some last, r.closed⟩

/-! ## Reading and changing files -/

/-- The bytes of the file at the end of a path. -/
def read (t : Tree) (path : String) : Except FileError Bytes := do
  match ← t.find path with
  | .directory => .error .isDirectory
  | .file content => .ok content
  | .table _ => .ok tableBytes

/-- The text of the file at the end of a path. -/
def readText (t : Tree) (path : String) : Except FileError String := do
  match Text.decodeUtf8 (← t.read path) with
  | .ok s => .ok s
  | .error _ => .error .illFormedText

/-- The tree with these bytes in the file at the end of a path, which may be a new one. -/
def overwrite (t : Tree) (path : String) (content : Bytes) : Except FileError Tree := do
  let goal ← t.target path
  match goal.name with
  | none => .error .isDirectory
  | some name =>
    if goal.closed then .error .isDirectory
    else do
      checkName name
      if t.isDirectory (goal.directory ++ [name]) then .error .isDirectory
      else .ok (t.put (goal.directory ++ [name]) (.file content))

/-- The tree with a new directory at the end of a path. -/
def makeDirectory (t : Tree) (path : String) : Except FileError Tree := do
  let goal ← t.target path
  match goal.name with
  | none => .error .exists
  | some name =>
    checkName name
    if (t.node? (goal.directory ++ [name])).isSome then .error .exists
    else .ok (t.put (goal.directory ++ [name]) .directory)

/-- The tree with a file moved to the end of another path, in place of any file there. -/
def moveFile (t : Tree) (source destination : String) : Except FileError Tree := do
  let old ← t.target source
  let new ← t.target destination
  match old.name, new.name with
  | some oldName, some newName => do
    checkName oldName
    match t.node? (old.directory ++ [oldName]) with
    | none => .error .absent
    | some moved =>
      checkName newName
      if old.closed || new.closed then .error .notDirectory
      else if t.isDirectory (new.directory ++ [newName]) then .error .isDirectory
      else if old.directory ++ [oldName] = new.directory ++ [newName] then .ok t
      else .ok ((t.clear (old.directory ++ [oldName])).put (new.directory ++ [newName]) moved)
  | _, _ => .error .busy

end Tree

end CaseRouting.Files
