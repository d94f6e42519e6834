import CaseRouting.Proofs.Json.Records
import CaseRouting.Proofs.Toml.Tables
import CaseRouting.Settings.Basic

/-!
# Settings with another value for a member

Settings are read from the members of tables by their names, in the order of these names. Where one
member gets another value that its field takes, the other fields are read as before.
-/

namespace CaseRouting

open Decode

variable {α : Type} {form : Form} {name k : String} {d d' : Doc}
  {members known : List (String × Doc)}

/-! ## Members in the order of their names -/

/-- The members with this value for the name, wherever it stands. -/
def replaceMember (name : String) (d : Doc) (members : List (String × Doc)) : List (String × Doc) :=
  members.map fun m => if m.1 = name then (name, d) else m

theorem keys_replaceMember (name : String) (d : Doc) (members : List (String × Doc)) :
    (replaceMember name d members).map Prod.fst = members.map Prod.fst := by
  rw [replaceMember, List.map_map]
  refine List.map_congr_left fun m _ => ?_
  dsimp only [Function.comp]
  split
  · next h => exact h.symm
  · rfl

theorem replaceMember_of_notMem (h : name ∉ members.map Prod.fst) (d : Doc) :
    replaceMember name d members = members := by
  refine (List.map_congr_left fun m hm => if_neg ?_).trans (List.map_id' members)
  rintro rfl
  exact h (List.mem_map_of_mem hm)

def membersInOrder (members : List (String × Doc)) : List (String × Doc) :=
  members.mergeSort fun a b => decide (a.1 ≤ b.1)

theorem membersInOrder_replaceMember (name : String) (d : Doc) (members : List (String × Doc)) :
    membersInOrder (replaceMember name d members) =
      replaceMember name d (membersInOrder members) := by
  refine (List.map_mergeSort fun a _ b _ => ?_).symm
  have hkey (m : String × Doc) : (if m.1 = name then (name, d) else m).1 = m.1 := by
    split
    · next h => exact h.symm
    · rfl
  simp only [hkey]

/-- If no name comes twice, nothing is lost by sorting. -/
theorem sortedMembers_of_nodup (h : (members.map Prod.fst).Nodup) :
    sortedMembers (members.map fun m => (Doc.ofText m.1, m.2)) =
      (membersInOrder members).map fun m => (Doc.ofText m.1, m.2) := by
  have hkept : members.foldr
      (fun m later => if later.any (·.1 == m.1) then later else m :: later) [] = members := by
    induction members with
    | nil => rfl
    | cons m members ih =>
      rw [List.map_cons, List.nodup_cons] at h
      rw [List.foldr_cons, ih h.2, if_neg]
      rw [List.any_eq_true, not_exists]
      rintro m' ⟨hm', hkey⟩
      exact h.1 (eq_of_beq hkey ▸ List.mem_map_of_mem hm')
  rw [sortedMembers, List.filterMap_map]
  change ((List.foldr (fun m later => if later.any (·.1 == m.1) then later else m :: later) []
    (List.filterMap some members)).mergeSort _).map _ = _
  rw [List.filterMap_some, hkept]
  rfl

theorem record_ofMembers_eq_ok_iff {fs : Fields α} {a : α} (h : (members.map Prod.fst).Nodup) :
    record name fs .settings (.ofMembers members) = .ok a ↔
      ∃ known, fs.walk .settings [] true
          ((membersInOrder members).map fun m => (Doc.ofText m.1, m.2)) = .ok known ∧
        fs.build .settings "" (.named known) = .ok a := by
  rw [← sortedMembers_of_nodup h]
  exact bind_eq_ok_iff

/-! ## A member that is replaced -/

theorem walk_replaceMember {fs : Fields α} {check : Form → Doc → Decoded Unit} {seen : List String}
    {closed : Bool} (h : fs.walk form seen closed
      (members.map fun m => (Doc.ofText m.1, m.2)) = .ok known)
    (hcheck : fs.check? name = some check) (hd : check form d = .ok ()) :
    fs.walk form seen closed
      ((replaceMember name d members).map fun m => (Doc.ofText m.1, m.2)) =
        .ok (replaceMember name d known) := by
  induction members generalizing seen known with
  | nil =>
    obtain ⟨hclosed, rfl⟩ := Fields.walk_nil_eq_ok_iff.mp h
    exact Fields.walk_nil_eq_ok_iff.mpr ⟨hclosed, rfl⟩
  | cons m members ih =>
    obtain ⟨key, old⟩ := m
    rw [List.map_cons] at h
    rw [replaceMember, List.map_cons, List.map_cons]
    by_cases hkey : key = name
    · subst hkey
      obtain ⟨hseen, -, later, hlater, rfl⟩ := (Fields.walk_cons_of_known hcheck).mp h
      rw [if_pos rfl]
      refine (Fields.walk_cons_of_known hcheck).mpr ⟨hseen, hd, _, ih hlater, ?_⟩
      simp [replaceMember]
    · rw [if_neg hkey]
      cases hother : fs.check? key with
      | none =>
        obtain ⟨hwhole, hlater⟩ := (Fields.walk_cons_of_unknown hother).mp h
        exact (Fields.walk_cons_of_unknown hother).mpr ⟨hwhole, ih hlater⟩
      | some other =>
        obtain ⟨hseen, hold, later, hlater, rfl⟩ := (Fields.walk_cons_of_known hother).mp h
        refine (Fields.walk_cons_of_known hother).mpr ⟨hseen, hold, _, ih hlater, ?_⟩
        simp [replaceMember, hkey]

theorem find?_replaceMember_of_ne (h : k ≠ name) :
    (replaceMember name d members).find? (·.1 == k) = members.find? (·.1 == k) := by
  induction members with
  | nil => rfl
  | cons m members ih =>
    rw [replaceMember, List.map_cons, List.find?_cons, List.find?_cons]
    by_cases hm : m.1 = name
    · have hk : (name == k) = false := beq_eq_false_iff_ne.mpr h.symm
      rw [if_pos hm, hm, hk]
      exact ih
    · rw [if_neg hm]
      cases m.1 == k with
      | true => rfl
      | false => exact ih

theorem find?_replaceMember_self {old : String × Doc} (h : members.find? (·.1 == name) = some old) :
    (replaceMember name d members).find? (·.1 == name) = some (name, d) := by
  induction members with
  | nil => exact absurd h (by simp)
  | cons m members ih =>
    rw [List.find?_cons] at h
    rw [replaceMember, List.map_cons, List.find?_cons]
    by_cases hm : m.1 = name
    · rw [if_pos hm, beq_self_eq_true]
    · rw [beq_eq_false_iff_ne.mpr hm] at h
      rw [if_neg hm, beq_eq_false_iff_ne.mpr hm]
      exact ih h

/-- What a walk through the members in order keeps of a field is the value of its member. -/
theorem find?_known_of_mem {fs : Fields α} (hnodup : (members.map Prod.fst).Nodup)
    (hwalk : fs.walk form [] true
      ((membersInOrder members).map fun m => (Doc.ofText m.1, m.2)) = .ok known)
    (hname : (fs.check? name).isSome) (hmem : (name, d) ∈ members) :
    ∃ key, known.find? (·.1 == name) = some (key, d) := by
  have hfind := Fields.find?_of_walk hwalk hname
  have hmember : Doc.member? name
      ((membersInOrder members).map fun m => (Doc.ofText m.1, m.2)) = some d := by
    have hperm : (membersInOrder members).Perm members := List.mergeSort_perm _ _
    have hfound : (membersInOrder members).find? (·.1 == name) = some (name, d) :=
      Json.find?_fst_of_mem (m := (name, d)) ((hperm.map Prod.fst).nodup_iff.mpr hnodup)
        (hperm.mem_iff.mpr hmem)
    rw [Doc.member?, List.find?_map]
    exact (congrArg (Option.map _) (congrArg (Option.map _) hfound)).trans rfl
  rw [hmember, Option.map_eq_some_iff] at hfind
  obtain ⟨⟨key, d'⟩, hfound, rfl⟩ := hfind
  exact ⟨key, hfound⟩

/-- Two walks found the same members but for the value of one. -/
structure Replaces (name : String) (d d' : Doc) (known known' : List (String × Doc)) : Prop where
  old : ∃ key, known.find? (·.1 == name) = some (key, d)
  new : ∃ key, known'.find? (·.1 == name) = some (key, d')
  other : ∀ k ≠ name, known'.find? (·.1 == k) = known.find? (·.1 == k)

namespace Replaces

variable {known' : List (String × Doc)} {f : Decode.Field α} (h : Replaces name d d' known known')
include h

theorem value_of_ne (hf : f.name ≠ name) (i : ℕ) (expected : String) :
    f.value form i expected (.named known') = f.value form i expected (.named known) := by
  rw [Field.value_named, Field.value_named, h.other f.name hf]

theorem value_old (hf : f.name = name) (i : ℕ) (expected : String) :
    f.value form i expected (.named known) = f.decoder form d := by
  obtain ⟨key, hfind⟩ := h.old
  rw [Field.value_named, hf, hfind]
  rfl

theorem value_new (hf : f.name = name) (i : ℕ) (expected : String) :
    f.value form i expected (.named known') = f.decoder form d' := by
  obtain ⟨key, hfind⟩ := h.new
  rw [Field.value_named, hf, hfind]
  rfl

end Replaces

/-- A record of members of which one has another value is built from what the walks then find. -/
theorem record_replaceMember {type : String} {fs : Fields α} {check : Form → Doc → Decoded Unit}
    {a a' : α} {P : Prop} (hnodup : (members.map Prod.fst).Nodup) (hmem : (name, d) ∈ members)
    (hcheck : fs.check? name = some check)
    (hbuild : ∀ known known', Replaces name d d' known known' →
      fs.build .settings "" (.named known) = .ok a →
        check .settings d' = .ok () ∧ fs.build .settings "" (.named known') = .ok a' ∧ P)
    (h : record type fs .settings (.ofMembers members) = .ok a) :
    record type fs .settings (.ofMembers (replaceMember name d' members)) = .ok a' ∧ P := by
  obtain ⟨known, hwalk, ha⟩ := (record_ofMembers_eq_ok_iff hnodup).mp h
  obtain ⟨key, hfind⟩ := find?_known_of_mem hnodup hwalk (Option.isSome_of_eq_some hcheck) hmem
  have hreplaces : Replaces name d d' known (replaceMember name d' known) :=
    ⟨⟨key, hfind⟩, ⟨name, find?_replaceMember_self hfind⟩, fun k hk => find?_replaceMember_of_ne hk⟩
  obtain ⟨hd, ha', hP⟩ := hbuild _ _ hreplaces ha
  refine ⟨(record_ofMembers_eq_ok_iff (by rwa [keys_replaceMember])).mpr
    ⟨replaceMember name d' known, ?_, ha'⟩, hP⟩
  rw [membersInOrder_replaceMember]
  exact walk_replaceMember hwalk hcheck hd

/-! ## Another token -/

namespace Settings

theorem TrackerSettings.decoder_replaceMember {t : TrackerSettings}
    (hnodup : (members.map Prod.fst).Nodup) (hmem : ("api_token", d) ∈ members) (v : String)
    (h : decoder .settings (.ofMembers members) = .ok t) :
    decoder .settings (.ofMembers (replaceMember "api_token" (.ofText v) members)) =
      .ok { t with apiToken := some v } := by
  refine (record_replaceMember (P := True) hnodup hmem rfl
    (fun known known' hreplaces hbuild => ⟨rfl, ?_, trivial⟩) h).1
  have hother {β : Type} {f : Decode.Field β} (hf : f.name ≠ "api_token") (i : ℕ) :
      f.value .settings i "" (.named known') = f.value .settings i "" (.named known) :=
    hreplaces.value_of_ne hf i ""
  have htoken (i : ℕ) : (nullable "api_token" text).value .settings i "" (.named known') =
      .ok (some v) := hreplaces.value_new rfl i ""
  -- The record is built up field by field, so the last field is the outermost.
  simp only [fields, Fields.build_field_eq_ok_iff, Fields.build_of_eq_ok_iff] at hbuild ⊢
  obtain ⟨_, ⟨_, ⟨_, ⟨_, ⟨_, ⟨_, ⟨_, ⟨_, ⟨_, ⟨_, rfl, baseUrl, hbaseUrl, rfl⟩, projectKey,
    hprojectKey, rfl⟩, username, husername, rfl⟩, apiToken, hapiToken, rfl⟩, timeout, htimeout,
    rfl⟩, maxResults, hmaxResults, rfl⟩, activate, hactivate, rfl⟩, deactivate, hdeactivate, rfl⟩,
    active, hactive, rfl⟩, deprecated, hdeprecated, rfl⟩ := hbuild
  exact ⟨_, ⟨_, ⟨_, ⟨_, ⟨_, ⟨_, ⟨_, ⟨_, ⟨_, ⟨_, rfl, _, (hother (by decide) _).trans hbaseUrl, rfl⟩,
    _, (hother (by decide) _).trans hprojectKey, rfl⟩,
    _, (hother (by decide) _).trans husername, rfl⟩, _, htoken _, rfl⟩,
    _, (hother (by decide) _).trans htimeout, rfl⟩,
    _, (hother (by decide) _).trans hmaxResults, rfl⟩,
    _, (hother (by decide) _).trans hactivate, rfl⟩,
    _, (hother (by decide) _).trans hdeactivate, rfl⟩,
    _, (hother (by decide) _).trans hactive, rfl⟩,
    _, (hother (by decide) _).trans hdeprecated, rfl⟩

def withToken (s : Settings) (v : String) : Settings :=
  { s with sources := { s.sources with
    tracker := s.sources.tracker.map fun t => { t with apiToken := some v } } }

theorem eq_of_withToken_eq {s r : Settings} {v w : String} (h : s.withToken v = r.withToken w)
    (htracker : (s.withToken v).sources.tracker.isSome) : v = w := by
  obtain ⟨tracker, hs⟩ := Option.isSome_iff_exists.mp htracker
  obtain ⟨old, hold, rfl⟩ := Option.map_eq_some_iff.mp hs
  rw [h] at hs
  obtain ⟨old', -, heq⟩ := Option.map_eq_some_iff.mp hs
  exact (Option.some.inj (congrArg TrackerSettings.apiToken heq)).symm

theorem SourceSettings.decoder_replaceMember {s : SourceSettings} {sub sub' : List (String × Doc)}
    {g : TrackerSettings → TrackerSettings} (hnodup : (members.map Prod.fst).Nodup)
    (hmem : ("jira", .ofMembers sub) ∈ members)
    (hsub : ∀ t, TrackerSettings.decoder .settings (.ofMembers sub) = .ok t →
      TrackerSettings.decoder .settings (.ofMembers sub') = .ok (g t))
    (h : decoder .settings (.ofMembers members) = .ok s) :
    decoder .settings (.ofMembers (replaceMember "jira" (.ofMembers sub') members)) =
        .ok { s with tracker := s.tracker.map g } ∧
      s.tracker.isSome := by
  refine record_replaceMember hnodup hmem rfl (fun known known' hreplaces hbuild => ?_) h
  have hother {β : Type} {f : Decode.Field β} (hf : f.name ≠ "jira") (i : ℕ) :
      f.value .settings i "" (.named known') = f.value .settings i "" (.named known) :=
    hreplaces.value_of_ne hf i ""
  simp only [Fields.build_field_eq_ok_iff, Fields.build_of_eq_ok_iff] at hbuild ⊢
  obtain ⟨_, ⟨_, ⟨_, rfl, sheet, hsheet, rfl⟩, tracker, htracker, rfl⟩, database, hdatabase, rfl⟩ :=
    hbuild
  rw [hreplaces.value_old rfl] at htracker
  obtain ⟨t, ht, rfl⟩ := map_eq_ok_iff.mp htracker
  have hnew : optional TrackerSettings.decoder .settings (.ofMembers sub') = .ok (some (g t)) :=
    map_eq_ok_iff.mpr ⟨g t, hsub t ht, rfl⟩
  refine ⟨map_eq_ok_iff.mpr ⟨_, hnew, rfl⟩, ?_, rfl⟩
  exact ⟨_, ⟨_, ⟨_, rfl, _, (hother (by decide) _).trans hsheet, rfl⟩,
    _, (hreplaces.value_new rfl _ _).trans hnew, rfl⟩,
    _, (hother (by decide) _).trans hdatabase, rfl⟩

theorem decoder_replaceMember {s : Settings} {sub sub' : List (String × Doc)} {v : String}
    (hnodup : (members.map Prod.fst).Nodup) (hmem : ("sources", .ofMembers sub) ∈ members)
    (hsub : ∀ sources, SourceSettings.decoder .settings (.ofMembers sub) = .ok sources →
      SourceSettings.decoder .settings (.ofMembers sub') = .ok { sources with
        tracker := sources.tracker.map fun t => { t with apiToken := some v } } ∧
      sources.tracker.isSome)
    (h : decoder .settings (.ofMembers members) = .ok s) :
    decoder .settings (.ofMembers (replaceMember "sources" (.ofMembers sub') members)) =
        .ok (s.withToken v) ∧
      s.sources.tracker.isSome := by
  refine record_replaceMember hnodup hmem rfl (fun known known' hreplaces hbuild => ?_) h
  have hother {β : Type} {f : Decode.Field β} (hf : f.name ≠ "sources") (i : ℕ) :
      f.value .settings i "" (.named known') = f.value .settings i "" (.named known) :=
    hreplaces.value_of_ne hf i ""
  simp only [Fields.build_field_eq_ok_iff, Fields.build_of_eq_ok_iff] at hbuild ⊢
  obtain ⟨_, ⟨_, ⟨_, rfl, router, hrouter, rfl⟩, logging, hlogging, rfl⟩, sources, hsources, rfl⟩ :=
    hbuild
  rw [hreplaces.value_old rfl] at hsources
  obtain ⟨hnew, htracker⟩ := hsub sources hsources
  refine ⟨map_eq_ok_iff.mpr ⟨_, hnew, rfl⟩, ?_, htracker⟩
  exact ⟨_, ⟨_, ⟨_, rfl, _, (hother (by decide) _).trans hrouter, rfl⟩,
    _, (hother (by decide) _).trans hlogging, rfl⟩,
    _, (hreplaces.value_new rfl _ _).trans hnew, rfl⟩

end Settings

/-! ## Tables that differ in the token -/

namespace Toml

def docsOf (ms : Members) : List (String × Doc) := ms.map fun m => (m.1, m.2.toDoc)

theorem toDoc_table (passed dotted : Bool) (ms : Members) :
    (Entry.table passed dotted ms).toDoc = .ofMembers (docsOf ms) := by
  have hmembers : membersDoc ms = (docsOf ms).map fun m => (Doc.ofText m.1, m.2) := by
    induction ms with
    | nil => rfl
    | cons m ms ih =>
      obtain ⟨key, e⟩ := m
      rw [membersDoc, ih]
      rfl
  rw [Entry.toDoc, hmembers]
  rfl

theorem Distinct.nodup {ms : Members} (h : Distinct ms) : ((docsOf ms).map Prod.fst).Nodup := by
  rw [docsOf, List.map_map]
  change (ms.map Prod.fst).Nodup
  induction h with
  | nil => exact List.nodup_nil
  | cons hkey _ _ _ ih => exact List.nodup_cons.mpr ⟨hkey, ih⟩

/-- A difference below a key is one of the member of this key alone. -/
theorem Differ.exists_replaceMember {key : String} {path : List String} {ms ms' : Members}
    (h : Differ d d' (key :: path) ms ms') (hdistinct : Distinct ms) :
    ∃ e e' : Entry, (key, e.toDoc) ∈ docsOf ms ∧
      docsOf ms' = replaceMember key e'.toDoc (docsOf ms) ∧
        (path = [] ∧ e = .value d ∧ e' = .value d' ∨
          ∃ passed dotted sub sub', e = .table passed dotted sub ∧ e' = .table passed dotted sub' ∧
            Differ d d' path sub sub' ∧ Distinct sub) := by
  induction ms generalizing ms' with
  | nil => cases h
  | cons m rest ih =>
    obtain - | ⟨hkey, htables, hrest⟩ := hdistinct
    have hself {k : String} {e : Entry} (hk : k ∉ rest.map Prod.fst) (e' : Entry) :
        docsOf ((k, e') :: rest) = replaceMember k e'.toDoc (docsOf ((k, e) :: rest)) := by
      have hk' : k ∉ (docsOf rest).map Prod.fst := by
        rwa [docsOf, List.map_map]
      rw [docsOf, List.map_cons, docsOf, List.map_cons, replaceMember, List.map_cons, if_pos rfl]
      exact congrArg _ (replaceMember_of_notMem hk' e'.toDoc).symm
    cases h with
    | here => exact ⟨.value d, .value d', List.mem_cons_self, hself hkey _, .inl ⟨rfl, rfl, rfl⟩⟩
    | @within _ _ passed dotted sub sub' _ hsub =>
      exact ⟨.table passed dotted sub, .table passed dotted sub', List.mem_cons_self, hself hkey _,
        .inr ⟨passed, dotted, sub, sub', rfl, rfl, hsub, htables sub (by simp [Entry.tables])⟩⟩
    | behind hne h =>
      obtain ⟨old, new, hmem, heq, hcases⟩ := ih h hrest
      refine ⟨old, new, List.mem_cons_of_mem _ hmem, ?_, hcases⟩
      simp only [docsOf, replaceMember] at heq
      simp only [docsOf, replaceMember, List.map_cons, heq, if_neg hne]

end Toml

namespace Settings

open Toml

/-- Settings read from tables that differ in the token alone differ in the token alone. -/
theorem decoder_of_differ {ms ms' : Members} {s : Settings} {v : String}
    (h : Differ d (.ofText v) ["sources", "jira", "api_token"] ms ms') (hdistinct : Distinct ms)
    (hs : decoder .settings (.ofMembers (docsOf ms)) = .ok s) :
    decoder .settings (.ofMembers (docsOf ms')) = .ok (s.withToken v) ∧
      s.sources.tracker.isSome := by
  obtain ⟨_, _, hsources, heq, ⟨hpath, -⟩ | ⟨_, _, sources, sources', rfl, rfl, h, hdistinct'⟩⟩ :=
    h.exists_replaceMember hdistinct
  · exact absurd hpath (by simp)
  rw [toDoc_table] at hsources heq
  rw [heq]
  refine decoder_replaceMember hdistinct.nodup hsources (fun s hs => ?_) hs
  obtain ⟨_, _, htracker, heq, ⟨hpath, -⟩ | ⟨_, _, tracker, tracker', rfl, rfl, h, hdistinct⟩⟩ :=
    h.exists_replaceMember hdistinct'
  · exact absurd hpath (by simp)
  rw [toDoc_table] at htracker heq
  rw [heq]
  refine SourceSettings.decoder_replaceMember hdistinct'.nodup htracker (fun t ht => ?_) hs
  obtain ⟨_, _, htoken, heq, ⟨-, rfl, rfl⟩ | ⟨_, _, _, _, -, -, h, -⟩⟩ :=
    h.exists_replaceMember hdistinct
  · rw [heq]
    exact TrackerSettings.decoder_replaceMember hdistinct.nodup htoken v ht
  · cases h

end Settings

end CaseRouting
