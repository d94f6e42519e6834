import CaseRouting.Proofs.Settings.Members
import CaseRouting.Proofs.Settings.Substitution
import CaseRouting.Proofs.Toml.Verbatim

/-!
# Settings texts with a reference for the token

A settings text may take the token of the tracker from a variable, with a reference between the
quotes of its line. The text is read after the value has been put there. What comes behind the line
is read alike whatever token stands in front of it, and to settings that differ in the token alone.
-/

namespace CaseRouting.Settings

open Decode
open Toml

variable {p v rest : List Char} {env : Environment} {settings : Settings}

/-! ## The line of the token -/

theorem isVerbatim_of_mem_reference {name : List Char} (h : isIdentifier name = true) :
    ∀ c ∈ reference name, isVerbatim c = true := by
  have hname : ∀ c ∈ name, isVerbatim c = true := by
    have hunderscore : isVerbatim '_' = true := by decide
    rcases name with - | ⟨d, name⟩
    · simp
    · simp only [isIdentifier, Bool.and_eq_true, Bool.or_eq_true, List.all_eq_true, beq_iff_eq] at h
      refine List.forall_mem_cons.mpr ⟨?_, fun c hc => ?_⟩
      · rcases h.1 with halpha | rfl
        · exact isVerbatim_of_isAlphanum (by simp [Char.isAlphanum, halpha])
        · exact hunderscore
      · rcases h.2 c hc with halphanum | rfl
        · exact isVerbatim_of_isAlphanum halphanum
        · exact hunderscore
  simp only [reference, List.cons_append, List.forall_mem_cons, List.forall_mem_append]
  exact ⟨by decide, by decide, hname, by decide, by simp⟩

def tokenOpening : List Char := "api_token = \"".toList

theorem key?_tokenOpening (text : List Char) :
    key? ((tokenOpening ++ text).length + 1) (tokenOpening ++ text) =
      some (([], "api_token"), '=' :: ' ' :: '"' :: text) := by
  have hpart : keyPart? (skipSpaces (tokenOpening ++ text)) =
      some ("api_token", ' ' :: '=' :: ' ' :: '"' :: text) := rfl
  rw [key?, hpart]
  rfl

theorem begins_tokenOpening_iff {statement : Statement} {text : List Char} :
    statement.Begins (tokenOpening ++ text) rest ↔
      ∃ w, statement = .setting [] "api_token" (.ofText w) ∧
        quotedText? ('"' :: text) = some (w, rest) := by
  have hskip : skipSpaces (tokenOpening ++ text) = tokenOpening ++ text := rfl
  have hvalue : value? (2 * (' ' :: '"' :: text).length + 2) deepest
      (skipSpaces (' ' :: '"' :: text)) =
        (quotedText? ('"' :: text)).map fun r => (.ofText r.1, r.2) := by
    change value? (2 * (' ' :: '"' :: text).length + 1 + 1) deepest ('"' :: text) = _
    rw [value?_succ_cons, if_pos (by decide)]
  constructor
  · intro h
    cases statement with
    | nothing => exact absurd (h.1 _ _ rfl) (by decide)
    | header series path key =>
      obtain ⟨tail, hopen, -⟩ := h
      cases series <;> exact absurd (List.cons.inj hopen).1 (by decide)
    | setting path key d =>
      obtain ⟨after, hkey, before, rfl, hd⟩ := h
      rw [hskip, key?_tokenOpening] at hkey
      obtain ⟨hpath, heq⟩ := Prod.mk.inj (Option.some.inj hkey)
      obtain ⟨rfl, rfl⟩ := Prod.mk.inj hpath
      obtain rfl := (List.cons.inj heq).2
      rw [hvalue, Option.map_eq_some_iff] at hd
      obtain ⟨⟨w, rest'⟩, hread, hw⟩ := hd
      obtain ⟨rfl, rfl⟩ := Prod.mk.inj hw
      exact ⟨w, rfl, hread⟩
  · rintro ⟨w, rfl, hread⟩
    refine ⟨_, hskip ▸ key?_tokenOpening text, _, rfl, ?_⟩
    rw [hvalue, hread, Option.map_some]

theorem readLines_indent {indent : List Char} (h : indent.all isSpace = true) (q : Progress)
    (text : List Char) : readLines q (indent ++ text) = readLines q text := by
  have hskip : skipSpaces (indent ++ text) = skipSpaces text :=
    List.dropWhile_append_of_pos (List.all_eq_true.mp h)
  rw [readLines_eq, expression?, hskip, readLines_eq q text, expression?]

theorem readLines_tokenOpening_eq_some_iff {p q : Progress} {text : List Char} :
    readLines p (tokenOpening ++ text) = some q ↔
      ∃ w rest, quotedText? ('"' :: text) = some (w, rest) ∧
        ∃ p', (Statement.setting [] "api_token" (.ofText w)).apply p = some p' ∧
          readOn p' rest = some q := by
  rw [readLines_eq_some_iff]
  constructor
  · rintro ⟨statement, rest, hbegins, p', happly, hon⟩
    obtain ⟨w, rfl, hread⟩ := begins_tokenOpening_iff.mp hbegins
    exact ⟨w, rest, hread, p', happly, hon⟩
  · rintro ⟨w, rest, hread, p', happly, hon⟩
    exact ⟨_, rest, begins_tokenOpening_iff.mpr ⟨w, rfl, hread⟩, p', happly, hon⟩

theorem head?_ne_of_readOn {p q : Progress} (h : readOn p rest = some q) :
    rest.head? ≠ some '"' := by
  intro hquote
  obtain ⟨tail, rfl⟩ := List.head?_eq_some_iff.mp hquote
  exact absurd h (by simp [readOn, skipBlank, skipSpaces, isSpace, lineBreak?])

/-- Behind any other token the text is read alike, to settings with this token. -/
theorem exists_readOn_withToken {root : Members} {w : String} {p q : Progress}
    (htable : (tableAt? ["sources", "jira"] root).isSome)
    (happly : (Statement.setting [] "api_token" (.ofText w)).apply ⟨root, ["sources", "jira"]⟩ =
      some p) (hon : readOn p rest = some q) (hdistinct : Distinct q.root)
    (hsettings : decoder .settings (.ofMembers (docsOf q.root)) = .ok settings) (w' : String) :
    ∃ p' q', (Statement.setting [] "api_token" (.ofText w')).apply ⟨root, ["sources", "jira"]⟩ =
        some p' ∧ readOn p' rest = some q' ∧
      decoder .settings (.ofMembers (docsOf q'.root)) = .ok (settings.withToken w') ∧
        settings.sources.tracker.isSome := by
  obtain ⟨r, hr, rfl⟩ := Option.map_eq_some_iff.mp happly
  obtain ⟨r', hr', hdiffer⟩ := exists_differ_of_assign htable hr (.ofText w')
  have hsame : SameBut _ _ _ ⟨r, ["sources", "jira"]⟩ ⟨r', ["sources", "jira"]⟩ := ⟨rfl, hdiffer⟩
  obtain ⟨q', hon', -, hdiffer⟩ := hsame.readOn hon
  exact ⟨_, q', Option.map_eq_some_iff.mpr ⟨r', hr', rfl⟩, hon',
    decoder_of_differ hdiffer hdistinct hsettings⟩

/-! ## Templates -/

/-- The text without the mark that may stand at its beginning. -/
def withoutMark : List Char → List Char
  | '\uFEFF' :: rest => rest
  | cs => cs

theorem withoutMark_append (h : p ≠ []) (more : List Char) :
    withoutMark (p ++ more) = withoutMark p ++ more := by
  obtain ⟨c, p, rfl⟩ := List.exists_cons_of_ne_nil h
  by_cases hc : c = '\uFEFF'
  · subst hc
    rfl
  · have hself (tail : List Char) : withoutMark (c :: tail) = c :: tail := by
      rw [withoutMark]
      exact fun _ heq => hc (List.cons.inj heq).1
    rw [List.cons_append, hself, hself, List.cons_append]

theorem withoutMark_suffix (cs : List Char) : withoutMark cs <:+ cs := by
  unfold withoutMark
  split
  · exact List.suffix_cons _ _
  · exact List.suffix_rfl

theorem read?_ofList (cs : List Char) :
    read? (.ofList cs) =
      (readLines ⟨[], []⟩ (withoutMark cs)).map fun q => .ofMembers (docsOf q.root) := by
  rw [read?, String.toList_ofList]
  change (readLines ⟨[], []⟩ (withoutMark cs)).map _ = _
  congr 1
  funext q
  exact toDoc_table false false q.root

theorem ofText_ofList_eq_ok_iff {cs : List Char} :
    ofText (.ofList cs) = .ok settings ↔
      ∃ q, readLines ⟨[], []⟩ (withoutMark cs) = some q ∧
        decoder .settings (.ofMembers (docsOf q.root)) = .ok settings := by
  rw [ofText, read?_ofList]
  cases readLines ⟨[], []⟩ (withoutMark cs) with
  | none => simp
  | some q =>
    cases h : decoder .settings (.ofMembers (docsOf q.root)) <;> simp [h]

/-- A settings text that is in order as it stands, with a reference between the quotes of a line in
the section of the tracker. -/
structure Template where
  before : List Char
  indent : List Char
  name : List Char
  after : List Char
  settings : Settings
  isIdentifier_name : isIdentifier name = true
  endsLine_before : EndsLine before
  isSpace_indent : indent.all isSpace = true
  inSection : ∃ root, readLines ⟨[], []⟩ (withoutMark before) = some ⟨root, ["sources", "jira"]⟩ ∧
    (tableAt? ["sources", "jira"] root).isSome
  not_leavesOpen : ¬LeavesOpen (before ++ indent ++ tokenOpening)
  ofText_eq : ofText (.ofList (before ++ indent ++ tokenOpening ++ reference name ++ '"' :: after)) =
    .ok settings

namespace Template

variable (t : Template)

def text : List Char := t.before ++ t.indent ++ tokenOpening ++ reference t.name ++ '"' :: t.after

def filled (v : List Char) : List Char :=
  t.before ++ t.indent ++ tokenOpening ++ v ++ '"' :: t.after

/-- No other reference of the text is to a variable that is set. -/
def HasNoOther (env : Environment) : Prop :=
  ∀ name, IsName name →
    reference name <:+: t.before ++ t.indent ++ tokenOpening ∨ reference name <:+: t.after →
      lookUp env name = none

theorem substitute_text (hv : lookUp env t.name = some v) (hother : t.HasNoOther env) :
    substitute env t.text = t.filled v := by
  have hname := isName_of_isIdentifier t.isIdentifier_name
  have hbefore : substitute env (t.before ++ t.indent ++ tokenOpening) =
      t.before ++ t.indent ++ tokenOpening :=
    substitute_eq_self fun name hname hin => hother name hname (.inl hin)
  have hafter : substitute env ('"' :: t.after) = '"' :: t.after := by
    rw [substitute_cons, substitute_eq_self fun name hname hin => hother name hname (.inr hin)]
    rintro name rest - heq
    rw [reference_append] at heq
    exact absurd (List.cons.inj heq).1 (by decide)
  rw [text, substitute_append_reference t.not_leavesOpen hname, hbefore, hafter, replacement, hv]
  rfl

/-- The text is read from the line of the token on with what its section was opened with. -/
theorem exists_readLines_filled : ∃ root, (tableAt? ["sources", "jira"] root).isSome ∧
    ∀ v, readLines ⟨[], []⟩ (withoutMark (t.filled v)) =
      readLines ⟨root, ["sources", "jira"]⟩ (tokenOpening ++ (v ++ '"' :: t.after)) := by
  obtain ⟨root, hroot, htable⟩ := t.inSection
  have hne := t.endsLine_before.ne_nil
  have hends : EndsLine (withoutMark t.before) := by
    refine t.endsLine_before.of_suffix (withoutMark_suffix _) fun hnil => ?_
    rw [hnil] at hroot
    exact absurd (congrArg Progress.header (Option.some.inj hroot)) (by simp)
  refine ⟨root, htable, fun v => ?_⟩
  rw [filled, List.append_assoc, List.append_assoc, List.append_assoc, withoutMark_append hne,
    readLines_append hends hroot, readLines_indent t.isSpace_indent]

/-- A text that stands for itself is the token, and nothing else changes with it. -/
theorem ofText_filled (hv : ∀ c ∈ v, isVerbatim c = true) :
    ofText (.ofList (t.filled v)) = .ok (t.settings.withToken (.ofList v)) ∧
      t.settings.sources.tracker.isSome := by
  obtain ⟨root, htable, hread⟩ := t.exists_readLines_filled
  obtain ⟨q, hq, hsettings⟩ := ofText_ofList_eq_ok_iff.mp t.ofText_eq
  have hdistinct : Distinct q.root := distinct_readLines .nil hq
  change readLines _ (withoutMark (t.filled (reference t.name))) = _ at hq
  rw [hread] at hq
  obtain ⟨w, rest, hquoted, p, happly, hon⟩ := readLines_tokenOpening_eq_some_iff.mp hq
  have hreference : quotedText? ('"' :: (reference t.name ++ '"' :: t.after)) =
      some (.ofList (reference t.name), t.after) :=
    quotedText?_of_verbatim (isVerbatim_of_mem_reference t.isIdentifier_name)
      (.inl (List.cons_ne_nil _ _))
  obtain ⟨rfl, rfl⟩ := Prod.mk.inj (Option.some.inj (hquoted.symm.trans hreference))
  obtain ⟨p', q', happly', hon', hdecode, htracker⟩ :=
    exists_readOn_withToken htable happly hon hdistinct hsettings (.ofList v)
  refine ⟨ofText_ofList_eq_ok_iff.mpr ⟨q', ?_, hdecode⟩, htracker⟩
  rw [hread]
  exact readLines_tokenOpening_eq_some_iff.mpr ⟨_, _,
    quotedText?_of_verbatim hv (.inr (head?_ne_of_readOn hon)), p', happly', hon'⟩

/-- The token is what is read between the quotes. -/
theorem exists_quotedText?_of_ofText_filled (h : ofText (.ofList (t.filled v)) = .ok settings) :
    ∃ w rest, quotedText? ('"' :: (v ++ '"' :: t.after)) = some (w, rest) ∧
      settings = settings.withToken w ∧ settings.sources.tracker.isSome := by
  obtain ⟨root, htable, hread⟩ := t.exists_readLines_filled
  obtain ⟨q, hq, hsettings⟩ := ofText_ofList_eq_ok_iff.mp h
  have hdistinct : Distinct q.root := distinct_readLines .nil hq
  rw [hread] at hq
  obtain ⟨w, rest, hquoted, p, happly, hon⟩ := readLines_tokenOpening_eq_some_iff.mp hq
  obtain ⟨p', q', happly', hon', hdecode, htracker⟩ :=
    exists_readOn_withToken htable happly hon hdistinct hsettings w
  -- The token that was read is no other than itself, so the same text is read once more.
  obtain rfl := Option.some.inj (happly.symm.trans happly')
  obtain rfl := Option.some.inj (hon.symm.trans hon')
  exact ⟨w, rest, hquoted, Except.ok.inj (hsettings.symm.trans hdecode), htracker⟩

end Template

end CaseRouting.Settings
