/-!
# Paths as texts

What a path says before any file is looked at: its parent, the name at its end, the extension of the
name, and two paths one after the other. Empty parts and single dots do not count, except for a dot
that begins a relative path.
-/

namespace CaseRouting.Files

/-- The slash of an absolute path, or the dot that begins a relative one, and the rest. -/
def splitLead (path : List Char) : List Char × List Char :=
  match path with
  | '/' :: rest => (['/'], rest)
  | ['.'] => (['.'], [])
  | '.' :: '/' :: rest => (['.'], '/' :: rest)
  | _ => ([], path)

/-- The part behind the last slash, and what is in front of that slash. -/
def lastPart (body : List Char) : List Char × List Char :=
  let last := (body.reverse.takeWhile (· ≠ '/')).reverse
  (body.take (body.length - last.length - 1), last)

theorem lastPart_length_lt {body : List Char} (h : body ≠ []) :
    (lastPart body).1.length < body.length := by
  have : 0 < body.length := List.length_pos_iff.mpr h
  simp only [lastPart, List.length_take]
  omega

/-- A part that does not count. -/
def isVoid (part : List Char) : Bool := part == [] || part == ['.']

/-- The body without parts at its end that do not count. -/
def trimBody (body : List Char) : List Char :=
  if _h : body = [] then []
  else if isVoid (lastPart body).2 then trimBody (lastPart body).1 else body
termination_by body.length
decreasing_by exact lastPart_length_lt ‹_›

/-- The path without its last part. The root and the empty path have no parent. -/
def parentChars? (path : List Char) : Option (List Char) :=
  let (lead, rest) := splitLead path
  let body := trimBody rest
  if body.isEmpty then if lead = ['.'] then some [] else none
  else some (lead ++ trimBody (lastPart body).1)

theorem trimBody_length_le (body : List Char) : (trimBody body).length ≤ body.length := by
  fun_induction trimBody body with
  | case1 => simp
  | case2 body h _ ih => have := lastPart_length_lt h; omega
  | case3 => simp

theorem parentChars?_length_lt {path parent : List Char} (h : parentChars? path = some parent) :
    parent.length < path.length := by
  have lead : (splitLead path).1.length + (splitLead path).2.length = path.length := by
    unfold splitLead
    split <;> simp only [List.length_cons, List.length_nil] <;> omega
  simp only [parentChars?] at h
  split at h
  · rename_i he
    split at h
    · rename_i hl
      injection h with h
      subst h
      simp only [hl, List.length_cons, List.length_nil] at lead
      simp only [List.length_nil]
      omega
    · exact absurd h (by simp)
  · rename_i he
    injection h with h
    subst h
    have ne : trimBody (splitLead path).2 ≠ [] := by simpa using he
    have h₁ := lastPart_length_lt ne
    have h₂ := trimBody_length_le (splitLead path).2
    have h₃ := trimBody_length_le (lastPart (trimBody (splitLead path).2)).1
    simp only [List.length_append]
    omega

/-- A path, its parent, the parent of that, and so on. -/
def lineage (path : List Char) : List (List Char) :=
  match _h : parentChars? path with
  | some parent => path :: lineage parent
  | none => [path]
termination_by path.length
decreasing_by exact parentChars?_length_lt _h

/-- The last part, if it is a name. -/
def nameChars? (path : List Char) : Option (List Char) :=
  let body := trimBody (splitLead path).2
  if body.isEmpty then none
  else
    let last := (lastPart body).2
    if last = ['.', '.'] then none else some last

/-- A name as its stem and extension. A name whose only dot comes first has no extension. -/
def splitName (name : List Char) : List Char × Option (List Char) :=
  let extension := (name.reverse.takeWhile (· ≠ '.')).reverse
  let stem := name.take (name.length - extension.length - 1)
  if extension.length = name.length || stem.isEmpty then (name, none) else (stem, some extension)

def extensionChars? (path : List Char) : Option (List Char) :=
  (nameChars? path).bind fun name => (splitName name).2

/-- The path up to the end of its name's stem. -/
def upToStem? (path : List Char) : Option (List Char) :=
  (nameChars? path).map fun name =>
    let (lead, rest) := splitLead path
    let whole := lead ++ trimBody rest
    whole.take (whole.length - name.length) ++ (splitName name).1

/-- The path with another extension at the end of its name. A path that ends without a name, or
would after its extension is taken off, keeps no new one. -/
def withExtensionChars (extension path : List Char) : List Char :=
  let bare := match extensionChars? path with
    | some old => path.take (path.length - old.length)
    | none => path
  match upToStem? bare with
  | some stem => stem ++ '.' :: extension
  | none => bare

/-- One path after another, which stays as it is if it is absolute. -/
def joinChars (base path : List Char) : List Char :=
  if path.head? = some '/' then path
  else if base.isEmpty || base.getLast? = some '/' then base ++ path
  else base ++ '/' :: path

def parent? (path : String) : Option String := (parentChars? path.toList).map String.ofList

def name? (path : String) : Option String := (nameChars? path.toList).map String.ofList

def extension? (path : String) : Option String := (extensionChars? path.toList).map String.ofList

def withExtension (extension path : String) : String :=
  .ofList (withExtensionChars extension.toList path.toList)

def join (base path : String) : String := .ofList (joinChars base.toList path.toList)

/-- A path as the directory of its file, by itself a dot, and the name of the file. -/
def split (path : String) : String × String :=
  let directory := match parent? path with
    | some p => if p.isEmpty then "." else p
    | none => "."
  (directory, (name? path).getD "")

end CaseRouting.Files
