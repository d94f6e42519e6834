import CaseRouting.Proofs.Settings.Template

/-!
# The token of the tracker from the environment

A value is put into a settings text before the text is read, and so is taken as a part of it. It
reaches the settings as it is, with all else unchanged, if it has neither quotes nor backslashes and
no control characters; and only such values do so in every text.
-/

namespace CaseRouting.Settings

open Decode
open Toml

variable {v : List Char} {env : Environment}

/-! ## A section that ends with its token -/

def sectionLines : List Char :=
  ("[sources.jira]\nbase_url = \"https://jira.example.com\"\nproject_key = \"QA\"\n" ++
    "activate_transition_id = \"21\"\ndeactivate_transition_id = \"31\"\n").toList

def sectionMembers : Members := [
  ("base_url", .value (.ofText "https://jira.example.com")), ("project_key", .value (.ofText "QA")),
  ("activate_transition_id", .value (.ofText "21")),
  ("deactivate_transition_id", .value (.ofText "31"))]

def sectionRoot (members : Members) : Members :=
  [("sources", .table true false [("jira", .table false false members)])]

def sectionSettings (token : String) : TrackerSettings :=
  ⟨"https://jira.example.com", "QA", none, some token, none, none, "21", "31", none, none⟩

theorem readLines_sectionLines :
    readLines ⟨[], []⟩ (withoutMark sectionLines) =
      some ⟨sectionRoot sectionMembers, ["sources", "jira"]⟩ := by
  have hheader : (Statement.header false ["sources"] "jira").Begins "[sources.jira]\n".toList
      ['\n'] :=
    ⟨"sources.jira]\n".toList, by decide, "]\n".toList, by decide +kernel, by decide⟩
  have hlines : withoutMark sectionLines = "[sources.jira]\n".toList ++
        (textLine "base_url" "https://jira.example.com" ++ (textLine "project_key" "QA" ++
          (textLine "activate_transition_id" "21" ++
            (textLine "deactivate_transition_id" "31" ++ [])))) := by
    decide +kernel
  simp (disch := decide) only [hlines, readLines_line hheader, readLines_textLine]
  cbv

theorem membersInOrder_singleton (m : String × Doc) : membersInOrder [m] = [m] :=
  List.mergeSort_singleton m

theorem decoder_sectionRoot {members : Members} {tracker : TrackerSettings}
    (h : TrackerSettings.decoder .settings (.ofMembers (docsOf members)) = .ok tracker) :
    decoder .settings (.ofMembers (docsOf (sectionRoot members))) =
      .ok ⟨⟨true⟩, none, ⟨none, some tracker, none⟩⟩ := by
  have htracker : Decode.optional TrackerSettings.decoder .settings (.ofMembers (docsOf members)) =
      .ok (some tracker) := map_eq_ok_iff.mpr ⟨tracker, h, rfl⟩
  have hsources : SourceSettings.decoder .settings
      (.ofMembers [("jira", .ofMembers (docsOf members))]) = .ok ⟨none, some tracker, none⟩ := by
    refine (record_ofMembers_eq_ok_iff (by simp)).mpr
      ⟨[("jira", .ofMembers (docsOf members))], ?_, ?_⟩
    · rw [membersInOrder_singleton]
      exact (Fields.walk_cons_of_known rfl).mpr
        ⟨List.not_mem_nil, map_eq_ok_iff.mpr ⟨_, htracker, rfl⟩, [], rfl, rfl⟩
    · simp only [Fields.build_field_eq_ok_iff, Fields.build_of_eq_ok_iff]
      exact ⟨_, ⟨_, ⟨_, rfl, _, rfl, rfl⟩, _, htracker, rfl⟩, _, rfl, rfl⟩
  have hdocs : docsOf (sectionRoot members) =
      [("sources", .ofMembers [("jira", .ofMembers (docsOf members))])] := by
    rw [sectionRoot, docsOf, List.map_singleton, toDoc_table, docsOf, List.map_singleton, toDoc_table]
  rw [hdocs]
  refine (record_ofMembers_eq_ok_iff (by simp)).mpr
    ⟨[("sources", .ofMembers [("jira", .ofMembers (docsOf members))])], ?_, ?_⟩
  · rw [membersInOrder_singleton]
    exact (Fields.walk_cons_of_known rfl).mpr
      ⟨List.not_mem_nil, map_eq_ok_iff.mpr ⟨_, hsources, rfl⟩, [], rfl, rfl⟩
  · simp only [Fields.build_field_eq_ok_iff, Fields.build_of_eq_ok_iff]
    exact ⟨_, ⟨_, ⟨_, rfl, _, rfl, rfl⟩, _, rfl, rfl⟩, _, hsources, rfl⟩

theorem decoder_sectionMembers (token : String) :
    TrackerSettings.decoder .settings
        (.ofMembers (docsOf (sectionMembers ++ [("api_token", .value (.ofText token))]))) =
      .ok (sectionSettings token) := by
  let sorted : List (String × Doc) := [
    ("activate_transition_id", .ofText "21"), ("api_token", .ofText token),
    ("base_url", .ofText "https://jira.example.com"), ("deactivate_transition_id", .ofText "31"),
    ("project_key", .ofText "QA")]
  have hsorted : membersInOrder
      (docsOf (sectionMembers ++ [("api_token", .value (.ofText token))])) = sorted := by
    simp [sorted, membersInOrder, docsOf, sectionMembers, Entry.toDoc, List.mergeSort,
      List.MergeSort.Internal.splitInTwo]
  refine (record_ofMembers_eq_ok_iff (by simp [docsOf, sectionMembers])).mpr ⟨sorted, ?_, rfl⟩
  rw [hsorted]
  rfl

theorem apply_token_sectionRoot (token : String) :
    (Statement.setting [] "api_token" (.ofText token)).apply
        ⟨sectionRoot sectionMembers, ["sources", "jira"]⟩ =
      some ⟨sectionRoot (sectionMembers ++ [("api_token", .value (.ofText token))]),
        ["sources", "jira"]⟩ := by
  cbv

theorem endsLine_sectionLines : EndsLine sectionLines := by decide +kernel

theorem endsLine_withoutMark_sectionLines : EndsLine (withoutMark sectionLines) := by
  decide +kernel

theorem readLines_section (v : List Char) :
    readLines ⟨[], []⟩ (withoutMark (sectionLines ++ tokenOpening ++ v ++ ['"'])) =
      readLines ⟨sectionRoot sectionMembers, ["sources", "jira"]⟩
        (tokenOpening ++ (v ++ ['"'])) := by
  rw [List.append_assoc, List.append_assoc, withoutMark_append endsLine_sectionLines.ne_nil,
    readLines_append endsLine_withoutMark_sectionLines readLines_sectionLines]

theorem ofText_section (hv : ∀ c ∈ v, isVerbatim c = true) :
    ofText (.ofList (sectionLines ++ tokenOpening ++ v ++ ['"'])) =
      .ok ⟨⟨true⟩, none, ⟨none, some (sectionSettings (.ofList v)), none⟩⟩ := by
  have hread : readLines ⟨[], []⟩ (withoutMark (sectionLines ++ tokenOpening ++ v ++ ['"'])) =
      some ⟨sectionRoot (sectionMembers ++ [("api_token", .value (.ofText (.ofList v)))]),
        ["sources", "jira"]⟩ := by
    rw [readLines_section]
    exact readLines_tokenOpening_eq_some_iff.mpr ⟨_, [],
      quotedText?_of_verbatim hv (.inr (by simp)), _, apply_token_sectionRoot _, rfl⟩
  exact ofText_ofList_eq_ok_iff.mpr ⟨_, hread, decoder_sectionRoot (decoder_sectionMembers _)⟩

/-- A section for the tracker that ends with the line of the token. -/
def tokenTemplate : Template where
  before := sectionLines
  indent := []
  name := "TOKEN".toList
  after := []
  settings := ⟨⟨true⟩, none, ⟨none, some (sectionSettings "$\x7bTOKEN\x7d"), none⟩⟩
  isIdentifier_name := by decide
  endsLine_before := endsLine_sectionLines
  isSpace_indent := rfl
  inSection := ⟨_, readLines_sectionLines, rfl⟩
  not_leavesOpen := by
    rw [List.append_nil]
    decide +kernel
  ofText_eq := by
    rw [List.append_nil]
    exact ofText_section (isVerbatim_of_mem_reference (by decide))

theorem tokenTemplate_filled (v : List Char) :
    tokenTemplate.filled v = sectionLines ++ tokenOpening ++ v ++ ['"'] := by
  rw [Template.filled, tokenTemplate, List.append_nil]

theorem hasNoOther_tokenTemplate (env : Environment) : tokenTemplate.HasNoOther env := by
  rintro name - (hin | hin)
  · simp only [tokenTemplate, List.append_nil] at hin
    have hmem : '$' ∈ sectionLines ++ tokenOpening := hin.subset List.mem_cons_self
    have hnone : (sectionLines ++ tokenOpening).all (· ≠ '$') = true := by decide +kernel
    exact absurd (List.all_eq_true.mp hnone _ hmem) (by decide)
  · exact absurd (List.infix_nil.mp hin) (List.cons_ne_nil _ _)

/-- Settings that take the token as it is were read from a value that stands for itself. -/
theorem isVerbatim_of_parse_tokenTemplate {settings : Settings}
    (hv : lookUp env tokenTemplate.name = some v)
    (h : parse env (.ofList tokenTemplate.text) = .ok (settings.withToken (.ofList v))) :
    ∀ c ∈ v, isVerbatim c = true := by
  rw [parse, String.toList_ofList,
    tokenTemplate.substitute_text hv (hasNoOther_tokenTemplate env)] at h
  obtain ⟨w, rest, hquoted, hsettings, htracker⟩ :=
    tokenTemplate.exists_quotedText?_of_ofText_filled h
  obtain rfl := eq_of_withToken_eq hsettings htracker
  exact isVerbatim_of_quotedText? hquoted

/-- The token is the value of its variable and all else is as it was, whatever else the text holds,
if and only if the value stands for itself. -/
theorem parse_text_eq_withToken_iff (v : List Char) :
    (∀ (t : Template) (env : Environment), lookUp env t.name = some v → t.HasNoOther env →
      t.settings.sources.tracker.isSome ∧
        parse env (.ofList t.text) = .ok (t.settings.withToken (.ofList v))) ↔
      ∀ c ∈ v, isVerbatim c = true := by
  constructor
  · intro h
    let env : Environment := [("TOKEN", .ofList v)]
    have hlookUp : lookUp env tokenTemplate.name = some v := by
      simp [env, lookUp, tokenTemplate]
    exact isVerbatim_of_parse_tokenTemplate hlookUp
      (h tokenTemplate env hlookUp (hasNoOther_tokenTemplate env)).2
  · intro hv t env hlookUp hother
    obtain ⟨hok, htracker⟩ := t.ofText_filled hv
    refine ⟨htracker, ?_⟩
    rw [parse, String.toList_ofList, t.substitute_text hlookUp hother, hok]

theorem parse_tokenTemplate_secret :
    (∀ c ∈ "secret".toList, isVerbatim c = true) ∧
      parse [("TOKEN", "secret")] (.ofList tokenTemplate.text) =
        .ok ⟨⟨true⟩, none, ⟨none, some (sectionSettings "secret"), none⟩⟩ := by
  have hplain : ∀ c ∈ "secret".toList, isVerbatim c = true := List.all_eq_true.mp (by decide)
  exact ⟨hplain, ((parse_text_eq_withToken_iff _).mpr hplain tokenTemplate [("TOKEN", "secret")]
    (by decide) (hasNoOther_tokenTemplate _)).2⟩

/-- A value that closes the quotes and goes on with lines of its own. -/
def tokenWithLines : String := "x\"\nmax_results = 7\nusername = \"bot"

def membersWithLines : Members :=
  sectionMembers ++ [("api_token", .value (.ofText "x")), ("max_results", .value (.ofInt 7)),
    ("username", .value (.ofText "bot"))]

def settingsWithLines : TrackerSettings :=
  { sectionSettings "x" with maxResults := some 7, username := some "bot" }

theorem readLines_tokenWithLines :
    readLines ⟨sectionRoot sectionMembers, ["sources", "jira"]⟩
        (tokenOpening ++ (tokenWithLines.toList ++ ['"'])) =
      some ⟨sectionRoot membersWithLines, ["sources", "jira"]⟩ := by
  have hseven : scalar? ['7'] = some (.ofInt 7) := by
    have hwhole : whole? ['7'] = some (.ofInt 7) := by cbv
    rw [scalar?, if_neg (by decide), if_neg (by decide), if_neg (by decide), hwhole]
  have hresults : (Statement.setting [] "max_results" (.ofInt 7)).Begins
      "max_results = 7\n".toList ['\n'] :=
    begins_of_word " 7\n".toList ['7'] (by decide +kernel) (by decide +kernel) hseven
  have husername : (Statement.setting [] "username" (.ofText "bot")).Begins
      "username = \"bot\"".toList [] :=
    begins_of_quoted " \"bot\"".toList (by decide +kernel) (by decide +kernel)
  have hlines : tokenOpening ++ (tokenWithLines.toList ++ ['"']) =
      textLine "api_token" "x" ++ ("max_results = 7\n".toList ++ "username = \"bot\"".toList) := by
    decide +kernel
  simp (disch := decide) only [hlines, readLines_textLine, readLines_line hresults, readLines_eq _
    "username = \"bot\"".toList, expression?_of_begins husername]
  cbv

theorem decoder_membersWithLines :
    TrackerSettings.decoder .settings (.ofMembers (docsOf membersWithLines)) =
      .ok settingsWithLines := by
  let sorted : List (String × Doc) := [
    ("activate_transition_id", .ofText "21"), ("api_token", .ofText "x"),
    ("base_url", .ofText "https://jira.example.com"), ("deactivate_transition_id", .ofText "31"),
    ("max_results", .ofInt 7), ("project_key", .ofText "QA"), ("username", .ofText "bot")]
  have hsorted : membersInOrder (docsOf membersWithLines) = sorted := by
    simp [sorted, membersInOrder, membersWithLines, docsOf, sectionMembers, Entry.toDoc,
      List.mergeSort, List.MergeSort.Internal.splitInTwo]
  refine (record_ofMembers_eq_ok_iff
    (by simp [docsOf, membersWithLines, sectionMembers])).mpr ⟨sorted, ?_, rfl⟩
  rw [hsorted]
  rfl

/-- What follows a quote of the value is read as further settings. -/
theorem parse_tokenTemplate_tokenWithLines :
    parse [("TOKEN", tokenWithLines)] (.ofList tokenTemplate.text) =
      .ok ⟨⟨true⟩, none, ⟨none, some settingsWithLines, none⟩⟩ := by
  have hlookUp : lookUp [("TOKEN", tokenWithLines)] tokenTemplate.name =
    some tokenWithLines.toList := rfl
  rw [parse, String.toList_ofList,
    tokenTemplate.substitute_text hlookUp (hasNoOther_tokenTemplate _), tokenTemplate_filled]
  exact ofText_ofList_eq_ok_iff.mpr ⟨_, (readLines_section _).trans readLines_tokenWithLines,
    decoder_sectionRoot decoder_membersWithLines⟩

theorem parse_text_not_always_withToken :
    ¬∀ (t : Template) (env : Environment) (v : List Char), lookUp env t.name = some v →
      t.HasNoOther env → parse env (.ofList t.text) = .ok (t.settings.withToken (.ofList v)) := by
  intro h
  have htoken := h tokenTemplate [("TOKEN", tokenWithLines)] tokenWithLines.toList rfl
    (hasNoOther_tokenTemplate _)
  rw [parse_tokenTemplate_tokenWithLines] at htoken
  have hsame : settingsWithLines.maxResults = (sectionSettings "").maxResults := by
    have := congrArg (fun s : Settings => s.sources.tracker.bind (·.maxResults))
      (Except.ok.inj htoken)
    exact this
  exact absurd hsame (by decide)

end CaseRouting.Settings
