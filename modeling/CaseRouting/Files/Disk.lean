import CaseRouting.Files.Tree

/-!
# Disks

A tree of files as a state: directories are made as they are needed, and a file is replaced as a
whole.
-/

namespace CaseRouting.Files

/-- Replaces the tree by one that may not come about. -/
def replacing (change : Tree → Except FileError Tree) : Action Tree Unit := fun t =>
  match change t with
  | .ok t => ⟨.ok (), t, []⟩
  | .error e => ⟨.error (.file e), t, []⟩

/-- Makes the directory at the end of the first path, after those it stands in where they are
missing. The empty path is the working directory. -/
def makeAll : List String → Action Tree Unit
  | [] => Action.fail (.file (.other "failed to create whole tree"))
  | path :: above => fun t =>
    let unlessThere (t : Tree) (e : FileError) : Outcome Tree Unit :=
      if t.leadsToDirectory path then ⟨.ok (), t, []⟩ else ⟨.error (.file e), t, []⟩
    if path.isEmpty then ⟨.ok (), t, []⟩
    else match t.makeDirectory path with
      | .ok t => ⟨.ok (), t, []⟩
      | .error .absent =>
        Action.bind (makeAll above) (fun _ t =>
          match t.makeDirectory path with
          | .ok t => ⟨.ok (), t, []⟩
          | .error e => unlessThere t e) t
      | .error e => unlessThere t e

/-- Makes a directory and those it stands in, as far as they are missing. -/
def makeDirectories (path : String) : Action Tree Unit :=
  makeAll ((lineage path.toList).map String.ofList)

/-- Makes the directories that a file at this path needs. -/
def makeParents (path : String) : Action Tree Unit :=
  match parent? path with
  | some parent => makeDirectories parent
  | none => pure ()

/-- The storage of files in a tree below a directory. A file is written under another name first,
and takes its own when it is complete. -/
def below (base : String) : Storage Tree where
  read path := fun t => ⟨(t.read (join base path)).mapError .file, t, []⟩
  write path content := do
    let full := join base path
    let draft := withExtension "tmp" full
    makeParents full
    replacing fun t => t.overwrite draft content
    replacing fun t => t.moveFile draft full

end CaseRouting.Files
