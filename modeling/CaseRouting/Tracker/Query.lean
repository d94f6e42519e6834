import CaseRouting.Settings.Basic

/-!
# Queries of the tracker

A filter as a query in the tracker's own language. Values stand between quotes; a backslash keeps a
quote or a backslash in a value from being taken for more.
-/

namespace CaseRouting.Tracker

open Settings (TrackerSettings)

/-- The text with another one in place of each `c`. -/
def replaced (c : Char) (other : List Char) (cs : List Char) : List Char :=
  cs.flatMap fun d => if d = c then other else [d]

/-- A text as a literal. Backslashes are doubled before quotes get one of their own. -/
def literal (s : String) : String :=
  .ofList ('"' :: replaced '"' ['\\', '"'] (replaced '\\' ['\\', '\\'] s.toList) ++ ['"'])

def statusClause (s : TrackerSettings) : Status → String
  | .active => " AND status = " ++ literal s.activeName
  | .deprecated => " AND status = " ++ literal s.deprecatedName
  | .draft =>
    " AND status not in (" ++ literal s.activeName ++ ", " ++ literal s.deprecatedName ++ ")"

/-- An optional clause. -/
def clause {α : Type} (f : α → String) : Option α → String
  | some a => f a
  | none => ""

/-- The query for the test cases of the project that a filter may pick. -/
def searchText (s : TrackerSettings) (f : Filter) : String :=
  "project = " ++ literal s.projectKey ++
    clause (fun l => " AND labels = " ++ literal l) f.label ++
    clause (statusClause s) f.status ++
    clause (fun t => " AND summary ~ " ++ literal t) f.titleContains ++
    " ORDER BY key ASC"

/-- A count in 32 bits, where larger ones are held as the largest. -/
def held32 (n : Nat) : Nat := if n < Nat.pow 2 32 then n else Nat.pow 2 32 - 1

/-- How many issues to ask for. The tracker searches titles for words, so a limit counts only
without a title. -/
def pageSize (s : TrackerSettings) (f : Filter) : Nat :=
  match f.limit, f.titleContains with
  | some n, none => min (held32 n) s.pageLimit
  | _, _ => s.pageLimit

end CaseRouting.Tracker
