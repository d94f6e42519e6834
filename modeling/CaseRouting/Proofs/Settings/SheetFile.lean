import CaseRouting.Proofs.Action
import CaseRouting.Proofs.Files.Components
import CaseRouting.Settings.Load
import CaseRouting.Table.Opening

/-!
# The file of a sheet

The path of a sheet that settings may name is taken apart into a directory and the name of a file,
and nothing of it is lost. The draft under which the sheet is written first never stands in the place
of the sheet.
-/

namespace CaseRouting

namespace Files

open Table (follow placeOf)

variable {path stem extension name part : List Char}

/-! ## Names and extensions -/

theorem splitName_append (hstem : stem ≠ []) (h : '.' ∉ extension) :
    splitName (stem ++ '.' :: extension) = (stem, some extension) := by
  have hshorter : extension.length ≠ stem.length + (extension.length + 1) := by omega
  simp only [splitName, takeWhile_reverse_append stem h, List.reverse_reverse, take_before_mark]
  simp [hshorter, hstem]

theorem eq_append_of_splitName (h : (splitName name).2 = some extension) :
    ∃ stem, name = stem ++ '.' :: extension ∧ stem ≠ [] ∧ '.' ∉ extension := by
  rcases lastMark_cases '.' name with hdot | ⟨stem, last, rfl, hlast⟩
  · rw [splitName, takeWhile_reverse_of_not_mem hdot] at h
    simp at h
  · by_cases hstem : stem = []
    · rw [splitName, takeWhile_reverse_append stem hlast] at h
      simp [hstem] at h
    · rw [splitName_append hstem hlast] at h
      obtain rfl := Option.some.inj h
      exact ⟨stem, rfl, hstem, hlast⟩

/-- The name of a draft, by the stem of the name it is made from. Without its extension, a name may
be two dots, which take no other extension. -/
def draftName (extension stem : List Char) : List Char :=
  if stem = ['.'] then ['.', '.'] else stem ++ '.' :: extension

theorem upToStem?_append (front : List Char) (h : '/' ∉ part) (hcounts : isVoid part = false) :
    upToStem? (front ++ '/' :: part) =
      if part = ['.', '.'] then none else some (front ++ '/' :: (splitName part).1) := by
  obtain ⟨lead, body, hsplit, hwhole, htrim, _⟩ := exists_body_of_append front h hcounts
  have htake : (front ++ '/' :: part).take ((front ++ '/' :: part).length - part.length) =
      front ++ ['/'] := by
    rw [List.append_cons, List.length_append, Nat.add_sub_cancel, List.take_left]
  rw [upToStem?, nameChars?_append front h hcounts]
  by_cases hdots : part = ['.', '.']
  · rw [if_pos hdots, if_pos hdots, Option.map_none]
  · rw [if_neg hdots, if_neg hdots, Option.map_some]
    simp only [hsplit, htrim, hwhole, htake, List.append_assoc, List.singleton_append]

/-- Behind a slash, an extension is replaced in the name alone. -/
theorem withExtensionChars_append (front new : List Char)
    (hname : IsName (stem ++ '.' :: extension)) (hstem : stem ≠ []) (hdot : '.' ∉ extension) :
    withExtensionChars new (front ++ '/' :: (stem ++ '.' :: extension)) =
      front ++ '/' :: draftName new stem := by
  have hold : extensionChars? (front ++ '/' :: (stem ++ '.' :: extension)) = some extension := by
    rw [extensionChars?, hname.nameChars?_append, Option.bind_some, splitName_append hstem hdot]
  have hbare : (front ++ '/' :: (stem ++ '.' :: extension)).take
      ((front ++ '/' :: (stem ++ '.' :: extension)).length - extension.length) =
        front ++ '/' :: (stem ++ ['.']) := by
    have happend : front ++ '/' :: (stem ++ '.' :: extension) =
        (front ++ '/' :: (stem ++ ['.'])) ++ extension := by simp
    rw [happend, List.length_append, Nat.add_sub_cancel, List.take_left]
  have hslash : '/' ∉ stem ++ ['.'] := by
    have hnot := hname.slash_notMem
    simp only [List.mem_append, List.mem_cons, not_or] at hnot ⊢
    exact ⟨hnot.1, by decide, List.not_mem_nil⟩
  have hcounts : isVoid (stem ++ ['.']) = false := by simp [isVoid, hstem]
  rw [withExtensionChars, hold]
  dsimp only
  rw [hbare, upToStem?_append front hslash hcounts, splitName_append hstem List.not_mem_nil,
    draftName]
  by_cases hdots : stem = ['.']
  · rw [if_pos hdots, hdots]
    rfl
  · have hne : stem ++ ['.'] ≠ ['.', '.'] := fun h =>
      hdots (List.append_cancel_right (show stem ++ ['.'] = ['.'] ++ ['.'] from h))
    rw [if_neg hdots, if_neg hne]
    simp

/-- Without its extension this name is two dots, which take no other one. -/
example : withExtension "tmp" "data/..csv" = "data/.." := by decide +kernel

/-! ## A name by itself -/

theorem IsName.splitLead_eq (h : IsName name) : splitLead name = ([], name) := by
  unfold splitLead
  split
  · exact absurd (List.mem_cons_self ..) h.slash_notMem
  · exact absurd h.counts (by decide)
  · exact absurd (List.mem_cons_of_mem _ (List.mem_cons_self ..)) h.slash_notMem
  · rfl

theorem IsName.componentChars_eq (h : IsName name) : componentChars name = [name] := by
  rw [componentChars, h.splitLead_eq, h.countedParts_eq]
  rfl

theorem IsName.nameChars?_eq (h : IsName name) : nameChars? name = some name := by
  have hlast := lastPart_of_not_mem h.slash_notMem
  have htrim : trimBody name = name := trimBody_eq_self (by rw [hlast]; exact h.counts)
  rw [nameChars?_eq_some_iff, h.splitLead_eq, htrim, hlast]
  exact ⟨ne_nil_of_counts h.counts, rfl, h.ne_dots⟩

/-! ## The place of a draft -/

section Draft

variable {new : List Char}

theorem slash_not_mem_draftName (hname : IsName (stem ++ '.' :: extension)) (hnew : '/' ∉ new) :
    '/' ∉ draftName new stem := by
  have hstem : '/' ∉ stem := fun hmem => hname.slash_notMem (List.mem_append_left _ hmem)
  unfold draftName
  split
  · decide
  · simp [hstem, hnew]

theorem isVoid_draftName (hstem : stem ≠ []) : isVoid (draftName new stem) = false := by
  unfold draftName
  split
  · rfl
  · simp [isVoid, List.append_eq_singleton_iff, hstem]

theorem draftName_ne (hname : IsName (stem ++ '.' :: extension)) (h : new ≠ extension) :
    draftName new stem ≠ stem ++ '.' :: extension := by
  unfold draftName
  split
  · exact fun heq => hname.ne_dots heq.symm
  · simpa using h

/-- A path leads from the place in front of its last slash one name further. -/
theorem placeOf_append (t : Tree) (front : List Char) (hslash : '/' ∉ part)
    (hcounts : isVoid part = false) :
    placeOf t (.ofList (front ++ '/' :: part)) =
      follow (placeOf t (.ofList (front ++ ['/']))) (.ofList part) := by
  have hpart : part ≠ [] := ne_nil_of_counts hcounts
  have hhead : (front ++ '/' :: part).head? = (front ++ ['/']).head? := by cases front <;> rfl
  have hnames : pathNames (.ofList (front ++ '/' :: part)) =
      pathNames (.ofList (front ++ ['/'])) ++ [.ofList part] := by
    simp [pathNames, List.splitOn_append_cons_self, List.splitOn_eq_singleton hslash, hpart]
  simp only [placeOf, hnames, List.foldl_append, List.foldl_cons, List.foldl_nil,
    String.toList_ofList, hhead]

theorem IsName.follow_ne (hname : IsName name) (hcounts : isVoid part = false) (hne : part ≠ name)
    (p : Place) : follow p (.ofList part) ≠ follow p (.ofList name) := by
  have hdot {cs : List Char} (h : isVoid cs = false) : String.ofList cs ≠ "." := fun heq =>
    ne_dot_of_counts h (String.ofList_injective heq)
  have hdots : String.ofList name ≠ ".." := fun heq =>
    hname.ne_dots (String.ofList_injective heq)
  unfold follow
  rw [if_neg (hdot hname.counts), if_neg hdots, if_neg (hdot hcounts)]
  split
  · intro heq
    have hlength := congrArg List.length heq
    simp only [List.length_dropLast, List.length_append, List.length_singleton] at hlength
    omega
  · intro heq
    exact hne (String.ofList_injective (List.singleton_inj.mp (List.append_cancel_left heq)))

theorem countedParts_draftName_ne (hname : IsName (stem ++ '.' :: extension)) (hstem : stem ≠ [])
    (hnew : '/' ∉ new) (h : new ≠ extension) :
    countedParts (draftName new stem) ≠ countedParts (stem ++ '.' :: extension) := by
  rw [countedParts_of_not_mem (slash_not_mem_draftName hname hnew), isVoid_draftName hstem,
    hname.countedParts_eq]
  exact fun heq => draftName_ne hname h (List.singleton_inj.mp heq)

theorem placeOf_draftName_ne (t : Tree) (front : List Char)
    (hname : IsName (stem ++ '.' :: extension)) (hstem : stem ≠ []) (hnew : '/' ∉ new)
    (h : new ≠ extension) :
    placeOf t (.ofList (front ++ '/' :: draftName new stem)) ≠
      placeOf t (.ofList (front ++ '/' :: (stem ++ '.' :: extension))) := by
  have hcounts : isVoid (draftName new stem) = false := isVoid_draftName hstem
  rw [placeOf_append t front (slash_not_mem_draftName hname hnew) hcounts,
    placeOf_append t front hname.slash_notMem hname.counts]
  exact hname.follow_ne hcounts (draftName_ne hname h) _

end Draft

/-! ## The directory and the file of a path -/

theorem split_of_name (h : nameChars? path = some name) :
    ∃ directory, directory ≠ [] ∧ split (.ofList path) = (.ofList directory, .ofList name) ∧
      (componentChars directory ++ [name] = componentChars path ∨
        componentChars directory ++ [name] = ['.'] :: componentChars path) := by
  obtain ⟨parent, hparent, hcomponents⟩ := exists_parent_of_name h
  by_cases hempty : parent = []
  · subst hempty
    refine ⟨['.'], List.cons_ne_nil _ _, ?_, .inr ?_⟩
    · simp [split, parent?, name?, hparent, h]
    · rw [hcomponents]
      rfl
  · refine ⟨parent, hempty, ?_, .inl hcomponents.symm⟩
    simp [split, parent?, name?, hparent, h, hempty]

/-- A single name of a file with the extension of sheets, in any case of letters. -/
structure IsSheetName (file : String) : Prop where
  components_eq : components file = [file]
  ne_empty : file ≠ ""
  ne_dot : file ≠ "."
  ne_dots : file ≠ ".."
  extension : ∃ e ∈ extension? file, Text.asciiLower e = "csv"

theorem IsName.isSheetName {e : String} (h : IsName name)
    (hextension : extensionChars? name = some e.toList) (hcsv : Text.asciiLower e = "csv") :
    IsSheetName (.ofList name) where
  components_eq := by rw [components_ofList, h.componentChars_eq]; rfl
  ne_empty heq := ne_nil_of_counts h.counts (String.ofList_injective heq)
  ne_dot heq := ne_dot_of_counts h.counts (String.ofList_injective heq)
  ne_dots heq := h.ne_dots (String.ofList_injective heq)
  extension := ⟨e, by simp [extension?, hextension], hcsv⟩

/-- The path of a sheet as a directory and the name of its file: together they say what the path
says, and a draft of the file stands elsewhere. -/
structure SplitsSheet (path directory file : String) : Prop where
  directory_ne_empty : directory ≠ ""
  name : IsSheetName file
  components_join : components (join directory file) = components path ∨
    components (join directory file) = "." :: components path
  components_draft_ne :
    components (withExtension "tmp" (join directory file)) ≠ components (join directory file)
  draft_apart : ∀ t, placeOf t (withExtension "tmp" (join directory file)) ≠
    placeOf t (join directory file)

theorem ne_tmp_of_asciiLower (h : Text.asciiLower (.ofList extension) = "csv") :
    "tmp".toList ≠ extension := by
  rintro rfl
  have hlower := congrArg String.toList h
  simp only [Text.asciiLower, String.toList_map, String.toList_ofList] at hlower
  exact absurd hlower (by decide)

theorem splitsSheet_of_extension {path e : String} (h : extension? path = some e)
    (hcsv : Text.asciiLower e = "csv") : SplitsSheet path (split path).1 (split path).2 := by
  obtain ⟨extension, hchars, rfl⟩ := Option.map_eq_some_iff.mp h
  obtain ⟨name, hlast, hextension⟩ := Option.bind_eq_some_iff.mp hchars
  have hname := isName_of_nameChars? hlast
  obtain ⟨stem, rfl, hstem, hdot⟩ := eq_append_of_splitName hextension
  obtain ⟨directory, hdirectory, hsplit, hcomponents⟩ := split_of_name hlast
  obtain ⟨front, hjoin, hfront⟩ := exists_front_of_join hdirectory
  have hfull : join (.ofList directory) (.ofList (stem ++ '.' :: extension)) =
      .ofList (front ++ '/' :: (stem ++ '.' :: extension)) := by
    rw [join, String.toList_ofList, String.toList_ofList, hjoin _ hname.slash_notMem]
  have hdraft : withExtension "tmp" (.ofList (front ++ '/' :: (stem ++ '.' :: extension))) =
      .ofList (front ++ '/' :: draftName "tmp".toList stem) := by
    simp only [withExtension, String.toList_ofList,
      withExtensionChars_append front _ hname hstem hdot]
  have hnew : '/' ∉ "tmp".toList := by decide
  have hne := ne_tmp_of_asciiLower hcsv
  rw [String.ofList_toList] at hsplit
  rw [hsplit]
  constructor
  case directory_ne_empty => exact fun heq => hdirectory (String.ofList_injective heq)
  case name =>
    refine hname.isSheetName ?_ hcsv
    rw [extensionChars?, hname.nameChars?_eq, Option.bind_some, hextension, String.toList_ofList]
  case components_join =>
    rw [hfull, components_ofList, hfront, hname.countedParts_eq]
    exact hcomponents.imp (congrArg _) (congrArg _)
  case components_draft_ne =>
    rw [hfull, hdraft, components_ofList, components_ofList, hfront, hfront]
    intro heq
    exact countedParts_draftName_ne hname hstem hnew hne
      (List.append_cancel_left (ofList_map_injective heq))
  case draft_apart =>
    rw [hfull, hdraft]
    exact fun t => placeOf_draftName_ne t front hname hstem hnew hne

end Files

/-! ## Checked paths -/

namespace Settings

theorem checkExtension_eq_ok_iff {field value : String} {allowed : List String} :
    checkExtension field value allowed = .ok () ↔
      ∃ e ∈ Files.extension? value, Text.asciiLower e ∈ allowed := by
  unfold checkExtension
  cases Files.extension? value with
  | none => simp
  | some e =>
    by_cases hmem : Text.asciiLower e ∈ allowed <;> simp [hmem]

/-- A path that passes the checks of settings is split without loss into a directory and a file,
and the file is never drafted in its own place. -/
theorem split_of_checkSheet {s : SheetSettings} (h : checkSheet s = .ok ()) :
    Files.SplitsSheet s.path (Files.split s.path).1 (Files.split s.path).2 := by
  unfold checkSheet at h
  obtain ⟨_, _, hextension⟩ := bind_eq_ok_iff.mp h
  obtain ⟨e, he, hcsv⟩ := checkExtension_eq_ok_iff.mp hextension
  exact Files.splitsSheet_of_extension he (List.mem_singleton.mp hcsv)

theorem split_of_checkSheet_hidden :
    checkSheet ⟨".//data/./.cases.v2.CSV"⟩ = .ok () ∧
      Files.split ".//data/./.cases.v2.CSV" = (".//data", ".cases.v2.CSV") ∧
      Files.SplitsSheet ".//data/./.cases.v2.CSV" ".//data" ".cases.v2.CSV" := by
  have hcheck : checkSheet ⟨".//data/./.cases.v2.CSV"⟩ = .ok () := by decide +kernel
  have hsplit : Files.split ".//data/./.cases.v2.CSV" = (".//data", ".cases.v2.CSV") := by
    decide +kernel
  have hsplits := split_of_checkSheet hcheck
  rw [hsplit] at hsplits
  exact ⟨hcheck, hsplit, hsplits⟩

end Settings

end CaseRouting
