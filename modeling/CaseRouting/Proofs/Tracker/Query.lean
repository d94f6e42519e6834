import CaseRouting.Tracker.Query
import Mathlib.Tactic

/-!
# Queries read back

The language of the queries, as a grammar and as a reader of it. A literal may hold any characters,
each by itself or after a backslash, and what stands in it never ends it. So the query for a filter
can be read in one way only, with the values of the configuration and of the filter in their places.
-/

namespace CaseRouting.Tracker

open Settings (TrackerSettings)

variable {α : Type} {c : Char} {v cs l rest : List Char} {s s' : TrackerSettings} {f f' : Filter}

/-! ## Literals -/

/-- A text up to its closing quote, and the rest. A backslash makes the next character literal. -/
def readText? : List Char → Option (List Char × List Char)
  | [] => none
  | '"' :: rest => some ([], rest)
  | ['\\'] => none
  | '\\' :: c :: rest => (readText? rest).map fun r => (c :: r.1, r.2)
  | c :: rest => (readText? rest).map fun r => (c :: r.1, r.2)

def readLiteral? : List Char → Option (String × List Char)
  | '"' :: rest => (readText? rest).map fun r => (.ofList r.1, r.2)
  | _ => none

/-- The characters of a text as they may stand in a literal: by themselves or after a backslash. -/
inductive Spells : List Char → List Char → Prop
  | nil : Spells [] []
  | plain {c : Char} {v cs : List Char} (hquote : c ≠ '"') (hslash : c ≠ '\\') (h : Spells v cs) :
    Spells (c :: v) (c :: cs)
  | escaped {v cs : List Char} (c : Char) (h : Spells v cs) : Spells (c :: v) ('\\' :: c :: cs)

def IsLiteral (v : String) (l : List Char) : Prop :=
  ∃ inner, Spells v.toList inner ∧ l = '"' :: inner ++ ['"']

theorem readText?_of_spells (h : Spells v cs) (rest : List Char) :
    readText? (cs ++ '"' :: rest) = some (v, rest) := by
  induction h with
  | nil => rw [List.nil_append, readText?]
  | plain hquote hslash _ ih =>
    rw [List.cons_append, readText?, ih, Option.map_some]
    · exact hquote
    · exact fun hc _ => hslash hc
    · exact fun _ _ hc _ => hslash hc
  | escaped c _ ih => rw [List.cons_append, List.cons_append, readText?, ih, Option.map_some]

theorem readLiteral?_of_isLiteral {v : String} (h : IsLiteral v l) (rest : List Char) :
    readLiteral? (l ++ rest) = some (v, rest) := by
  obtain ⟨inner, hinner, rfl⟩ := h
  rw [List.cons_append, List.cons_append, List.append_assoc, List.singleton_append, readLiteral?,
    readText?_of_spells hinner, Option.map_some, String.ofList_toList]

/-- The two replacements put a backslash before each quote and each backslash. -/
theorem replaced_replaced_cons (c : Char) (cs : List Char) :
    replaced '"' ['\\', '"'] (replaced '\\' ['\\', '\\'] (c :: cs)) =
      (if c = '"' ∨ c = '\\' then ['\\', c] else [c]) ++
        replaced '"' ['\\', '"'] (replaced '\\' ['\\', '\\'] cs) := by
  by_cases hslash : c = '\\'
  · subst hslash
    simp [replaced]
  · by_cases hquote : c = '"'
    · subst hquote
      simp [replaced]
    · simp [replaced, hslash, hquote]

theorem spells_replaced (v : List Char) :
    Spells v (replaced '"' ['\\', '"'] (replaced '\\' ['\\', '\\'] v)) := by
  induction v with
  | nil => exact .nil
  | cons c v ih =>
    rw [replaced_replaced_cons]
    split
    · exact .escaped c ih
    · next hplain =>
      rw [not_or] at hplain
      exact .plain hplain.1 hplain.2 ih

theorem isLiteral_literal (v : String) : IsLiteral v (literal v).toList :=
  ⟨_, spells_replaced v.toList, by rw [literal, String.toList_ofList]⟩

/-! ## Clauses -/

inductive StatusTest where
  | is (name : String)
  | notIn (first second : String)
  deriving DecidableEq

inductive IsStatusTest : StatusTest → List Char → Prop
  | is {name : String} {l : List Char} (h : IsLiteral name l) :
    IsStatusTest (.is name) ("= ".toList ++ l)
  | notIn {first second : String} {l m : List Char} (h : IsLiteral first l)
    (h' : IsLiteral second m) :
    IsStatusTest (.notIn first second) ("not in (".toList ++ l ++ ", ".toList ++ m ++ ")".toList)

/-- A clause that may be left out. -/
inductive IsClause (word : String) (IsValue : α → List Char → Prop) : Option α → List Char → Prop
  | absent : IsClause word IsValue none []
  | present {a : α} {l : List Char} (h : IsValue a l) :
    IsClause word IsValue (some a) (word.toList ++ l)

def readStatusTest? (cs : List Char) : Option (StatusTest × List Char) :=
  match cs.dropPrefix? "= ".toList with
  | some rest => (readLiteral? rest).map fun r => (.is r.1, r.2)
  | none => do
    let rest ← cs.dropPrefix? "not in (".toList
    let (first, rest) ← readLiteral? rest
    let rest ← rest.dropPrefix? ", ".toList
    let (second, rest) ← readLiteral? rest
    let rest ← rest.dropPrefix? ")".toList
    pure (.notIn first second, rest)

def readClause? (word : String) (read : List Char → Option (α × List Char)) (cs : List Char) :
    Option (Option α × List Char) :=
  match cs.dropPrefix? word.toList with
  | some rest => (read rest).map fun r => (some r.1, r.2)
  | none => some (none, cs)

theorem dropPrefix?_append (word rest : List Char) :
    (word ++ rest).dropPrefix? word = some rest :=
  List.dropPrefix?_append_of_beq rest (beq_self_eq_true word)

theorem readStatusTest?_of_isStatusTest {test : StatusTest} (h : IsStatusTest test l)
    (rest : List Char) : readStatusTest? (l ++ rest) = some (test, rest) := by
  cases h with
  | is h =>
    rw [readStatusTest?, List.append_assoc, dropPrefix?_append]
    simp only [readLiteral?_of_isLiteral h, Option.map_some]
  | notIn h h' =>
    have hother (tail : List Char) : ("not in (".toList ++ tail).dropPrefix? "= ".toList = none := rfl
    simp only [readStatusTest?, List.append_assoc, hother, dropPrefix?_append,
      readLiteral?_of_isLiteral h, readLiteral?_of_isLiteral h', Option.bind_eq_bind,
      Option.bind_some, Option.pure_def]

/-- A clause is read if what follows where it is left out does not begin as it does. -/
theorem readClause?_of_isClause {word : String} {read : List Char → Option (α × List Char)}
    {IsValue : α → List Char → Prop} {o : Option α}
    (hread : ∀ a l rest, IsValue a l → read (l ++ rest) = some (a, rest))
    (h : IsClause word IsValue o l) (hrest : rest.dropPrefix? word.toList = none) :
    readClause? word read (l ++ rest) = some (o, rest) := by
  cases h with
  | absent => rw [List.nil_append, readClause?, hrest]
  | present h =>
    rw [readClause?, List.append_assoc, dropPrefix?_append]
    simp only [hread _ _ _ h, Option.map_some]

/-! ## Queries -/

/-- A query for the issues of a project, in the order of their keys. -/
structure Query where
  project : String
  label : Option String
  status : Option StatusTest
  summary : Option String
  deriving DecidableEq

namespace Query

/-- The ways to write a query. -/
def IsWritten (q : Query) (cs : List Char) : Prop :=
  ∃ project label status summary, IsLiteral q.project project ∧
    IsClause " AND labels = " IsLiteral q.label label ∧
    IsClause " AND status " IsStatusTest q.status status ∧
    IsClause " AND summary ~ " IsLiteral q.summary summary ∧
    cs = "project = ".toList ++ (project ++ (label ++ (status ++ (summary ++
      " ORDER BY key ASC".toList))))

def read? (cs : List Char) : Option Query := do
  let rest ← cs.dropPrefix? "project = ".toList
  let (project, rest) ← readLiteral? rest
  let (label, rest) ← readClause? " AND labels = " readLiteral? rest
  let (status, rest) ← readClause? " AND status " readStatusTest? rest
  let (summary, rest) ← readClause? " AND summary ~ " readLiteral? rest
  if rest = " ORDER BY key ASC".toList then some ⟨project, label, status, summary⟩ else none

theorem read?_of_isWritten {q : Query} (h : q.IsWritten cs) : read? cs = some q := by
  obtain ⟨project, label, status, summary, hproject, hlabel, hstatus, hsummary, rfl⟩ := h
  obtain ⟨projectValue, labelValue, statusValue, summaryValue⟩ := q
  have hliteral : ∀ v l rest, IsLiteral v l → readLiteral? (l ++ rest) = some (v, rest) :=
    fun _ _ rest h => readLiteral?_of_isLiteral h rest
  have htest : ∀ a l rest, IsStatusTest a l → readStatusTest? (l ++ rest) = some (a, rest) :=
    fun _ _ rest h => readStatusTest?_of_isStatusTest h rest
  have hafterLabel : (status ++ (summary ++ " ORDER BY key ASC".toList)).dropPrefix?
      " AND labels = ".toList = none := by
    cases hstatus <;> cases hsummary <;> rfl
  have hafterStatus : (summary ++ " ORDER BY key ASC".toList).dropPrefix?
      " AND status ".toList = none := by
    cases hsummary <;> rfl
  have hafterSummary : " ORDER BY key ASC".toList.dropPrefix? " AND summary ~ ".toList = none := rfl
  have hreadLabel := readClause?_of_isClause hliteral hlabel hafterLabel
  have hreadStatus := readClause?_of_isClause htest hstatus hafterStatus
  have hreadSummary := readClause?_of_isClause hliteral hsummary hafterSummary
  simp only [read?, Option.bind_eq_bind, Option.bind_eq_some_iff, Prod.exists]
  exact ⟨_, dropPrefix?_append _ _, _, _, readLiteral?_of_isLiteral hproject _, _, _, hreadLabel,
    _, _, hreadStatus, _, _, hreadSummary, if_pos rfl⟩

theorem IsWritten.unique {q q' : Query} (h : q.IsWritten cs) (h' : q'.IsWritten cs) : q = q' :=
  Option.some.inj ((read?_of_isWritten h).symm.trans (read?_of_isWritten h'))

end Query

/-! ## The query for a filter -/

def statusTest (s : TrackerSettings) : Status → StatusTest
  | .active => .is s.activeName
  | .deprecated => .is s.deprecatedName
  | .draft => .notIn s.activeName s.deprecatedName

/-- The query for a filter, with the values as they are. -/
def queryOf (s : TrackerSettings) (f : Filter) : Query where
  project := s.projectKey
  label := f.label
  status := f.status.map (statusTest s)
  summary := f.titleContains

theorem isClause_clause {β : Type} {word : String} {IsValue : α → List Char → Prop}
    {value : β → α} {write : β → String}
    (h : ∀ b, ∃ l, IsValue (value b) l ∧ (write b).toList = word.toList ++ l) (o : Option β) :
    IsClause word IsValue (o.map value) (clause write o).toList := by
  cases o with
  | none => exact .absent
  | some b =>
    obtain ⟨l, hl, hwrite⟩ := h b
    rw [clause, hwrite]
    exact .present hl

theorem isClause_literal (word : String) (o : Option String) :
    IsClause word IsLiteral o (clause (fun v => word ++ literal v) o).toList := by
  have h : IsClause word IsLiteral (o.map id) (clause (fun v => word ++ literal v) o).toList :=
    isClause_clause (fun v => ⟨_, isLiteral_literal v, String.toList_append⟩) o
  rwa [Option.map_id, id] at h

theorem isClause_statusClause (s : TrackerSettings) (o : Option Status) :
    IsClause " AND status " IsStatusTest (o.map (statusTest s)) (clause (statusClause s) o).toList := by
  have his (v : String) : (" AND status = " ++ literal v).toList =
      " AND status ".toList ++ ("= ".toList ++ (literal v).toList) := by
    rw [← List.append_assoc]
    exact String.toList_append
  refine isClause_clause (fun status => ?_) o
  cases status with
  | active => exact ⟨_, .is (isLiteral_literal s.activeName), his _⟩
  | deprecated => exact ⟨_, .is (isLiteral_literal s.deprecatedName), his _⟩
  | draft =>
    refine ⟨_, .notIn (isLiteral_literal s.activeName) (isLiteral_literal s.deprecatedName), ?_⟩
    change (" AND status not in (" ++ literal s.activeName ++ ", " ++ literal s.deprecatedName ++
      ")").toList = _
    simp only [String.toList_append, ← List.append_assoc]
    rfl

theorem isWritten_searchText (s : TrackerSettings) (f : Filter) :
    (queryOf s f).IsWritten (searchText s f).toList := by
  refine ⟨_, _, _, _, isLiteral_literal s.projectKey, isClause_literal _ f.label,
    isClause_statusClause s f.status, isClause_literal _ f.titleContains, ?_⟩
  simp only [searchText, String.toList_append, List.append_assoc]

/-- A reader of literals reads a value from its literal and stops right behind it. So the text for a
filter is that of one query only, with the values of the configuration and of the filter in it, and
no two filters share a text unless they have the same label and title. -/
theorem isWritten_searchText_iff :
    (∀ (v : String) (rest : List Char),
        readLiteral? ((literal v).toList ++ rest) = some (v, rest)) ∧
      (∀ (s : TrackerSettings) (f : Filter) (q : Query),
        q.IsWritten (searchText s f).toList ↔ q = queryOf s f) ∧
      ∀ (s s' : TrackerSettings) (f f' : Filter), searchText s f = searchText s' f' →
        f.label = f'.label ∧ f.titleContains = f'.titleContains := by
  refine ⟨fun v rest => readLiteral?_of_isLiteral (isLiteral_literal v) rest,
    fun s f q => ⟨fun h => h.unique (isWritten_searchText s f), ?_⟩, fun s s' f f' htext => ?_⟩
  · rintro rfl
    exact isWritten_searchText s f
  · have hwritten := isWritten_searchText s' f'
    rw [← htext] at hwritten
    have hsame : queryOf s f = queryOf s' f' := (isWritten_searchText s f).unique hwritten
    exact ⟨congrArg Query.label hsame, congrArg Query.summary hsame⟩

/-- A value that tries to add a clause stays a value. -/
example : (Query.read? (searchText ⟨"", "QA", none, none, none, none, "", "", none, none⟩
    ⟨none, some "a\\\" OR project = \"X", none, none⟩).toList).map Query.label =
      some (some "a\\\" OR project = \"X") := by
  rw [Query.read?_of_isWritten (isWritten_searchText _ _)]
  decide

end CaseRouting.Tracker
