import CaseRouting.Proofs.Address.Path
import CaseRouting.Proofs.Tracker.Request

/-!
# The addresses of issues

The requests about a test case go to one segment below the directory of issues, from which the id
can be read back, and those about different ids have different addresses. This fails for ids that are
no segments of a path, and where the path of the tracker is two slashes.
-/

namespace CaseRouting.Tracker

open Address (IsSegment stem pushSegment dropEndSlash encode reservedInSegment)

variable {t : Connection} {id : String} {segment tail : List Char}

/-- The text of a tracker's address up to the path. -/
def Connection.origin (t : Connection) : List Char :=
  t.base.schemeChars ++ t.base.host ++ t.base.portChars

def withoutEndSlash (path : List Char) : List Char :=
  if path.getLast? = some '/' then path.dropLast else path

/-- The addresses of all requests about a test case lead through the directory of issues and one
segment, which stands for the id. -/
def Connection.AddressesIssue (t : Connection) (id : String) : Prop :=
  ∃ segment : List Char, (∀ mark ∈ ['/', '\\', '?', '#'], mark ∉ segment) ∧
    Address.decode segment = Text.bytesOf id ∧
    let path := withoutEndSlash t.base.path ++ "/rest/api/2/issue/".toList ++ segment
    (t.issueRequest id).url =
        .ofList (t.origin ++ path ++ '?' :: Address.queryChars [("fields", issueFields)]) ∧
      (∀ changes, (t.fieldsRequest id changes).url = .ofList (t.origin ++ path)) ∧
      ∀ transitionId, (t.transitionRequest id transitionId).url =
        .ofList (t.origin ++ path ++ "/transitions".toList)

/-- A request that a call about this test case may send. -/
def Connection.IsAbout (t : Connection) (id : String) (request : Request) : Prop :=
  request = t.issueRequest id ∨ ∃ command, request = t.changeRequest id command

/-! ## The directory of issues -/

def Connection.directory (t : Connection) : List Char :=
  stem (dropEndSlash t.base.path) ++ "/rest/api/2/issue".toList

theorem head?_dropEndSlash {path : List Char} (h : path.head? = some '/') :
    (dropEndSlash path).head? = some '/' := by
  unfold dropEndSlash
  split
  · next hslash =>
    obtain ⟨rest, rfl⟩ := List.head?_eq_some_iff.mp h
    cases rest with
    | nil => simp at hslash
    | cons c rest => rfl
  · exact h

theorem pushSegment_word {path : List Char} (h : path.head? = some '/') {word : String}
    (hword : IsSegment word) (hplain : encode reservedInSegment word.toList = word.toList) :
    pushSegment path word = stem path ++ '/' :: word.toList := by
  rw [Address.pushSegment_of_isSegment h hword, hplain]

theorem foldl_pushSegment {path : List Char} (h : path.head? = some '/') :
    ["rest", "api", "2", "issue"].foldl pushSegment path =
      stem path ++ "/rest/api/2/issue".toList := by
  have hnext (tail : List Char) {word : String} (htail : tail ≠ []) (hword : IsSegment word)
      (hplain : encode reservedInSegment word.toList = word.toList) :
      pushSegment (stem path ++ '/' :: tail) word =
        stem path ++ '/' :: (tail ++ '/' :: word.toList) := by
    have hlength := List.length_pos_of_ne_nil htail
    rw [pushSegment_word (Address.head?_stem_append h tail) hword hplain, Address.stem_of_lt]
    · simp
    · rw [List.length_append, List.length_cons]
      omega
  simp only [List.foldl_cons, List.foldl_nil]
  rw [pushSegment_word h (by decide) (by decide), hnext _ (by decide) (by decide) (by decide),
    hnext _ (by decide) (by decide) (by decide), hnext _ (by decide) (by decide) (by decide)]
  rfl

theorem stem_directory : stem t.directory = t.directory := by
  apply Address.stem_of_lt
  rw [Connection.directory, List.length_append]
  have hword : "/rest/api/2/issue".toList.length = 17 := by decide
  omega

/-- Only of two slashes does more remain with one slash less. -/
theorem stem_dropEndSlash {path : List Char} (h : path.head? = some '/') (hne : path ≠ ['/', '/']) :
    stem (dropEndSlash path) = withoutEndSlash path := by
  obtain ⟨rest, rfl⟩ := List.head?_eq_some_iff.mp h
  rcases rest with - | ⟨c, rest⟩
  · rfl
  · unfold dropEndSlash withoutEndSlash
    by_cases hslash : ('/' :: c :: rest).getLast? = some '/'
    · have hrest : rest ≠ [] := by
        rintro rfl
        exact hne (by simpa using hslash)
      have hlength := List.length_pos_of_ne_nil hrest
      rw [if_pos (by simp [hslash]), if_pos hslash, Address.stem_of_lt]
      rw [List.length_dropLast, List.length_cons, List.length_cons]
      omega
    · have hkept : ¬(decide (1 < ('/' :: c :: rest).length) &&
          decide (('/' :: c :: rest).getLast? = some '/')) = true := by
        rw [Bool.and_eq_true, decide_eq_true_eq, decide_eq_true_eq]
        exact fun hboth => hslash hboth.2
      rw [if_neg hkept, if_neg hslash, Address.stem_of_lt (by simp)]

/-! ## The paths of requests -/

section

variable (hbase : t.base.path.head? = some '/')
include hbase

theorem head?_directory : t.directory.head? = some '/' :=
  Address.head?_stem_append (head?_dropEndSlash hbase) _

theorem directory_eq (hne : t.base.path ≠ ['/', '/']) :
    t.directory = withoutEndSlash t.base.path ++ "/rest/api/2/issue".toList := by
  rw [Connection.directory, stem_dropEndSlash hbase hne]

theorem path_issueAddress : (t.issueAddress id).path = pushSegment t.directory id := by
  have hfold : (t.issueAddress id).path = pushSegment
    (["rest", "api", "2", "issue"].foldl pushSegment (dropEndSlash t.base.path)) id := rfl
  rw [hfold, foldl_pushSegment (head?_dropEndSlash hbase)]
  rfl

theorem path_issueAddress_of_isSegment (hid : IsSegment id) :
    (t.issueAddress id).path = t.directory ++ '/' :: encode reservedInSegment id.toList := by
  rw [path_issueAddress hbase, Address.pushSegment_of_isSegment (head?_directory hbase) hid,
    stem_directory]

theorem path_transitionsAddress (hid : IsSegment id) : (t.transitionsAddress id).path =
    (t.issueAddress id).path ++ "/transitions".toList := by
  have hpath := path_issueAddress_of_isSegment hbase hid
  have hhead : (t.issueAddress id).path.head? = some '/' := by
    rw [hpath, List.head?_append, head?_directory hbase, Option.some_or]
  have hlength : 1 < (t.issueAddress id).path.length := by
    obtain ⟨rest, hdirectory⟩ := List.head?_eq_some_iff.mp (head?_directory hbase)
    rw [hdirectory] at hpath
    rw [hpath, List.length_append, List.length_cons, List.length_cons]
    omega
  have hpush : (t.transitionsAddress id).path = pushSegment (t.issueAddress id).path "transitions" :=
    rfl
  rw [hpush, pushSegment_word hhead (by decide) (by decide), Address.stem_of_lt hlength]
  rfl

end

/-! ## The addresses of requests -/

theorem url_issueRequest (t : Connection) (id : String) : (t.issueRequest id).url =
    .ofList (t.origin ++ (t.issueAddress id).path ++
      '?' :: Address.queryChars [("fields", issueFields)]) :=
  url_request_query t _ _ (List.cons_ne_nil _ _) _

theorem url_fieldsRequest (t : Connection) (id : String) (changes : Changes) :
    (t.fieldsRequest id changes).url = .ofList (t.origin ++ (t.issueAddress id).path) :=
  String.append_empty

theorem url_transitionRequest (t : Connection) (id transitionId : String) :
    (t.transitionRequest id transitionId).url =
      .ofList (t.origin ++ (t.transitionsAddress id).path) :=
  String.append_empty

section

variable (hbase : t.base.path.head? = some '/')
include hbase

theorem addressesIssue_of_isSegment (hne : t.base.path ≠ ['/', '/']) (hid : IsSegment id) :
    t.AddressesIssue id := by
  have hpath : (t.issueAddress id).path = withoutEndSlash t.base.path ++
      "/rest/api/2/issue/".toList ++ encode reservedInSegment id.toList := by
    rw [path_issueAddress_of_isSegment hbase hid, directory_eq hbase hne]
    simp
  refine ⟨encode reservedInSegment id.toList, fun mark => Address.not_mem_encode_segment,
    Address.decode_encode (by decide) _, ?_⟩
  rw [← hpath]
  refine ⟨url_issueRequest t id, url_fieldsRequest t id, fun transitionId => ?_⟩
  rw [url_transitionRequest, path_transitionsAddress hbase hid, List.append_assoc]

theorem isSegment_of_addressesIssue (h : t.AddressesIssue id) :
    t.base.path ≠ ['/', '/'] ∧ IsSegment id := by
  obtain ⟨segment, -, hdecode, -, hfields, -⟩ := h
  have hurl := hfields ⟨none, none, none⟩
  rw [url_fieldsRequest, String.ofList_inj, List.append_cancel_left_eq,
    path_issueAddress hbase] at hurl
  have hne : t.base.path ≠ ['/', '/'] := by
    intro hslashes
    have hdirectory : t.directory = "/rest/api/2/issue".toList := by
      rw [Connection.directory, hslashes]
      rfl
    rw [hslashes, hdirectory] at hurl
    have hword : "/rest/api/2/issue".toList.head? = some '/' := rfl
    have hcases := Address.pushSegment_cases hword id
    rw [hurl] at hcases
    simp [withoutEndSlash, stem] at hcases
  refine ⟨hne, Address.isSegment_of_pushSegment_eq (head?_directory hbase) ?_ hdecode⟩
  rw [hurl, stem_directory, directory_eq hbase hne]
  simp

/-- The address of a request tells where the segment of its test case begins, and what follows it
tells where it ends. -/
theorem exists_url_eq_of_isAbout {r : Request} (hid : IsSegment id) (h : t.IsAbout id r) :
    ∃ tail : List Char, (∀ c ∈ tail.head?, c = '/' ∨ c = '?') ∧
      r.url = .ofList (t.origin ++ (t.directory ++
        '/' :: (encode reservedInSegment id.toList ++ tail))) := by
  have hpath := path_issueAddress_of_isSegment hbase hid
  have htransition (transitionId : String) : (t.transitionRequest id transitionId).url =
      .ofList (t.origin ++ (t.directory ++
        '/' :: (encode reservedInSegment id.toList ++ "/transitions".toList))) := by
    rw [url_transitionRequest, path_transitionsAddress hbase hid, hpath, List.append_assoc,
      List.cons_append]
  rcases h with rfl | ⟨command, rfl⟩
  · refine ⟨'?' :: Address.queryChars [("fields", issueFields)], by simp, ?_⟩
    rw [url_issueRequest, hpath, List.append_assoc, List.append_assoc, List.cons_append]
  · cases command with
    | activate => exact ⟨"/transitions".toList, by simp, htransition _⟩
    | deactivate => exact ⟨"/transitions".toList, by simp, htransition _⟩
    | update changes =>
      refine ⟨[], by simp, ?_⟩
      rw [List.append_nil, ← hpath]
      exact url_fieldsRequest t id changes

end

theorem takeWhile_segment {cs : List Char} (htail : ∀ c ∈ tail.head?, c = '/' ∨ c = '?') :
    (encode reservedInSegment cs ++ tail).takeWhile (fun c => c ≠ '/' ∧ c ≠ '?') =
      encode reservedInSegment cs := by
  have hinside : ∀ c ∈ encode reservedInSegment cs, decide (c ≠ '/' ∧ c ≠ '?') = true := by
    intro c hc
    refine decide_eq_true ⟨?_, ?_⟩ <;> rintro rfl <;>
      exact Address.not_mem_encode_segment (by decide) hc
  rw [List.takeWhile_append_of_pos hinside]
  cases tail with
  | nil => rw [List.takeWhile_nil, List.append_nil]
  | cons c tail =>
    have hc := htail c rfl
    rw [List.takeWhile_cons_of_neg (by simpa using fun h => hc.resolve_left h), List.append_nil]

/-- The requests about a test case are addressed to one segment below the directory of issues, from
which its id can be read back, exactly when the id is a segment and the path of the tracker is not two
slashes. Requests about different segments have different addresses. -/
theorem addressesIssue_iff {field value : String}
    (h : Settings.checkBaseUrl field value = .ok t.base) :
    (∀ id, t.AddressesIssue id ↔ t.base.path ≠ ['/', '/'] ∧ IsSegment id) ∧
      ∀ a b, IsSegment a → IsSegment b → ∀ r r', t.IsAbout a r → t.IsAbout b r' →
        r.url = r'.url → a = b := by
  have hbase := Address.head?_path_of_checkBaseUrl h
  refine ⟨fun id => ⟨isSegment_of_addressesIssue hbase, fun ⟨hne, hid⟩ =>
    addressesIssue_of_isSegment hbase hne hid⟩, fun a b ha hb r r' hr hr' hurl => ?_⟩
  obtain ⟨tail, htail, hr⟩ := exists_url_eq_of_isAbout hbase ha hr
  obtain ⟨tail', htail', hr'⟩ := exists_url_eq_of_isAbout hbase hb hr'
  rw [hr, hr', String.ofList_inj, List.append_cancel_left_eq, List.append_cancel_left_eq,
    List.cons.injEq] at hurl
  have hsegments : encode reservedInSegment a.toList = encode reservedInSegment b.toList := by
    rw [← takeWhile_segment htail, hurl.2, takeWhile_segment htail']
  exact String.toList_inj.mp (Address.encode_injective (by decide) hsegments)

def nestedTracker : Connection where
  base := ⟨true, [], "example.com".toList, none, "/jira/".toList, false⟩
  settings := plainSettings "https://example.com/jira/"

/-- A text may look like several segments, or like the encoding of another text. -/
theorem addressesIssue_nestedTracker :
    Settings.checkBaseUrl "base_url" "https://example.com/jira/" = .ok nestedTracker.base ∧
      nestedTracker.AddressesIssue "../QA 1?é" ∧
      (nestedTracker.issueRequest "QA 1").url ≠ (nestedTracker.issueRequest "QA%201").url := by
  have hbase : Settings.checkBaseUrl "base_url" "https://example.com/jira/" =
      .ok nestedTracker.base := by decide +kernel
  obtain ⟨haddresses, hdifferent⟩ := addressesIssue_iff hbase
  refine ⟨hbase, (haddresses _).mpr (by decide), fun hurl => ?_⟩
  have hsame := hdifferent "QA 1" "QA%201" (by decide) (by decide) _ _ (.inl rfl) (.inl rfl) hurl
  exact absurd hsame (by decide)

/-- An id with a tab in it is not addressed. -/
theorem addressesIssue_not_always :
    ¬∀ (t : Connection) (field value id : String),
      Settings.checkBaseUrl field value = .ok t.base → t.AddressesIssue id := by
  intro h
  have hbase : Settings.checkBaseUrl "base_url" "https://jira.example.com" =
      .ok plainTracker.base := by decide +kernel
  have hid := (isSegment_of_addressesIssue rfl (h plainTracker _ _ "QA\t1" hbase)).2
  exact absurd hid (by decide)

/-- The id with a tab and the one without it share an address. -/
example : (plainTracker.issueRequest "QA\t1").url = (plainTracker.issueRequest "QA1").url := by
  decide +kernel

end CaseRouting.Tracker
