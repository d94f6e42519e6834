import CaseRouting.Proofs.Files.Disk

/-!
# What a write replaces

A file is written as a draft, under its own name with another extension, and the draft then takes
the name of the file. So a write that succeeds leaves the new content in its file and nothing at the
place of the draft. A file that stood there is lost; all others stay.
-/

namespace CaseRouting.Files

open Table (placeOf)

variable {t t' : Tree} {p q : Place} {path base name : String} {content : Bytes}
  {places : List Place} {paths more : List String}

namespace Tree

/-! ## Paths that lead to a directory -/

theorem step_eq_ok_iff :
    t.step p name = .ok q ↔ t.isDirectory p ∧
      (name = "." ∧ q = p ∨ name = ".." ∧ q = p.dropLast ∨
        (name ≠ "." ∧ name ≠ "..") ∧ checkName name = .ok () ∧
          (t.node? (p ++ [name])).isSome ∧ q = p ++ [name]) := by
  unfold step
  cases hp : t.isDirectory p with
  | false => simp
  | true =>
    by_cases hdot : name = "."
    · simp [hdot, eq_comm (a := q)]
    · by_cases hdots : name = ".."
      · simp [hdots, eq_comm (a := q)]
      · cases checkName name <;> cases (t.node? (p ++ [name])).isSome <;>
          simp [hdot, hdots, eq_comm (a := q)]

theorem isDirectory_of_walk {names : List String} (h : t.walk p names = .ok q)
    (hq : t.isDirectory q) : t.isDirectory p := by
  cases names with
  | nil => rwa [Except.ok.inj h]
  | cons name names =>
    rw [walk, List.foldlM_cons] at h
    obtain ⟨_, hstep, _⟩ := bind_eq_ok_iff.mp h
    exact (step_eq_ok_iff.mp hstep).1

/-- The directories of one tree are there in another, and paths begin where they began. -/
structure KeepsDirectories (t t' : Tree) : Prop where
  workingDirectory : t'.workingDirectory = t.workingDirectory
  isDirectory : ∀ p, t.isDirectory p → t'.isDirectory p

namespace KeepsDirectories

theorem step_eq_ok (hkept : KeepsDirectories t t') (h : t.step p name = .ok q)
    (hq : t.isDirectory q) : t'.step p name = .ok q := by
  obtain ⟨hp, hcases⟩ := step_eq_ok_iff.mp h
  refine step_eq_ok_iff.mpr ⟨hkept.isDirectory p hp, ?_⟩
  rcases hcases with hdot | hdots | ⟨hname, hcheck, _, rfl⟩
  · exact .inl hdot
  · exact .inr (.inl hdots)
  · have hthere : (t'.node? (p ++ [name])).isSome := by
      rw [eq_of_beq (hkept.isDirectory _ hq)]
      rfl
    exact .inr (.inr ⟨hname, hcheck, hthere, rfl⟩)

theorem walk_eq_ok (hkept : KeepsDirectories t t') {names : List String}
    (h : t.walk p names = .ok q) (hq : t.isDirectory q) : t'.walk p names = .ok q := by
  induction names generalizing p with
  | nil => exact h
  | cons name names ih =>
    rw [walk, List.foldlM_cons] at h ⊢
    obtain ⟨next, hstep, hrest⟩ := bind_eq_ok_iff.mp h
    exact bind_eq_ok_iff.mpr
      ⟨next, hkept.step_eq_ok hstep (isDirectory_of_walk hrest hq), ih hrest⟩

end KeepsDirectories

/-! ## Paths that end with a name -/

theorem target_eq_ok_iff :
    t.target path = .ok ⟨p, some name, false⟩ ↔
      ∃ r, t.route path = .ok r ∧ r.closed = false ∧ r.names.getLast? = some name ∧
        t.walk r.start r.names.dropLast = .ok p ∧ t.isDirectory p ∧
        name ≠ "." ∧ name ≠ ".." := by
  unfold target
  rw [bind_eq_ok_iff]
  refine exists_congr fun r => and_congr_right fun _ => ?_
  cases hlast : r.names.getLast? with
  | none => simp
  | some last =>
    dsimp only
    rw [bind_eq_ok_iff]
    constructor
    · rintro ⟨q, hwalk, h⟩
      cases hq : t.isDirectory q with
      | false => simp [hq] at h
      | true =>
        by_cases hdots : last = "." ∨ last = ".."
        · simp [hq, hdots] at h
        · simp only [hq, hdots, Bool.not_true, Bool.false_eq_true, if_false, Except.ok.injEq,
            Target.mk.injEq, Option.some.injEq] at h
          obtain ⟨rfl, rfl, hclosed⟩ := h
          exact ⟨hclosed, rfl, hwalk, hq, not_or.mp hdots⟩
    · rintro ⟨hclosed, hname, hwalk, hp, hdots⟩
      obtain rfl := Option.some.inj hname
      exact ⟨p, hwalk, by simp [hp, hdots, hclosed]⟩

theorem route_congr (h : t'.workingDirectory = t.workingDirectory) :
    t'.route path = t.route path := by
  unfold route
  rw [h]

theorem KeepsDirectories.target_eq_ok (hkept : KeepsDirectories t t')
    (h : t.target path = .ok ⟨p, some name, false⟩) :
    t'.target path = .ok ⟨p, some name, false⟩ := by
  obtain ⟨r, hroute, hclosed, hlast, hwalk, hp, hdots⟩ := target_eq_ok_iff.mp h
  exact target_eq_ok_iff.mpr ⟨r, (route_congr hkept.workingDirectory).trans hroute, hclosed, hlast,
    hkept.walk_eq_ok hwalk hp, hkept.isDirectory p hp, hdots⟩

theorem find_of_target {n : Node} (h : t.target path = .ok ⟨p, some name, false⟩)
    (hcheck : checkName name = .ok ()) (hnode : t.node? (p ++ [name]) = some n) :
    t.find path = .ok n := by
  obtain ⟨r, hroute, hclosed, hlast, hwalk, hp, hdots⟩ := target_eq_ok_iff.mp h
  have hstep : t.step p name = .ok (p ++ [name]) :=
    step_eq_ok_iff.mpr ⟨hp, .inr (.inr ⟨hdots, hcheck, by simp [hnode], rfl⟩)⟩
  have hlocate : t.locate path = .ok (p ++ [name]) := by
    unfold locate
    rw [hroute, ok_bind, ← List.dropLast_append_getLast? name hlast, walk, List.foldlM_append]
    rw [walk] at hwalk
    simp [hwalk, hstep, hclosed]
  unfold find
  rw [hlocate, ok_bind, hnode]

/-! ## What a tree gains -/

/-- Outside some places, a tree changes at most by directories at the ends of some paths, where
nothing stood. -/
structure GrowsAt (paths : List String) (places : List Place) (t t' : Tree) : Prop extends
    ChangesAt places t t' where
  outside : ∀ p, p ∉ places → p ∉ paths.map (placeOf t) → t'.node? p = t.node? p

namespace GrowsAt

theorem refl (paths : List String) (places : List Place) (t : Tree) : GrowsAt paths places t t :=
  ⟨.refl places t, fun _ _ _ => rfl⟩

theorem mono (h : GrowsAt paths places t t') (hsub : paths ⊆ more) : GrowsAt more places t t' :=
  ⟨h.toChangesAt, fun p hp hmore => h.outside p hp fun hmem => hmore (List.map_subset _ hsub hmem)⟩

theorem trans {u : Tree} (h : GrowsAt paths places t t') (h' : GrowsAt paths places t' u) :
    GrowsAt paths places t u := by
  refine ⟨h.toChangesAt.trans h'.toChangesAt, fun p hp hpaths => ?_⟩
  have hplaces : paths.map (placeOf t') = paths.map (placeOf t) :=
    List.map_congr_left fun _ _ => placeOf_congr h.workingDirectory
  exact (h'.outside p hp (hplaces ▸ hpaths)).trans (h.outside p hp hpaths)

/-- A place that changed as nothing else did is no exception. -/
theorem of_cons (h : GrowsAt paths (q :: places) t t')
    (hq : q ∈ places ∨ t'.node? q = t.node? q) : GrowsAt paths places t t' := by
  have hcons (p : Place) (hp : p ∉ places) : t'.node? p = t.node? p ∨ p ∉ q :: places := by
    by_cases heq : p = q
    · subst heq
      exact .inl (hq.resolve_left hp)
    · exact .inr (by simp [heq, hp])
  refine ⟨⟨h.workingDirectory, fun p hp => ?_⟩, fun p hp hpaths => ?_⟩
  · rcases hcons p hp with hsame | hother
    · exact .inl hsame
    · exact h.elsewhere p hother
  · rcases hcons p hp with hsame | hother
    · exact hsame
    · exact h.outside p hother hpaths

instance : Std.Refl (GrowsAt paths places) := ⟨.refl paths places⟩

instance : IsTrans Tree (GrowsAt paths places) := ⟨fun _ _ _ => .trans⟩

end GrowsAt

theorem growsAt_of_makeDirectory (h : t.makeDirectory path = .ok t') :
    GrowsAt [path] [] t t' := by
  refine ⟨changesAt_of_makeDirectory h, fun p _ hp => ?_⟩
  rw [(makeDirectory_eq_ok h).2]
  exact node?_put_of_ne _ fun heq => hp (List.mem_singleton.mpr heq)

end Tree

/-! ## A write -/

open CaseRouting.Files.Tree (GrowsAt KeepsDirectories)

theorem grows_makeAll (paths : List String) : (makeAll paths).Respects (GrowsAt paths []) := by
  induction paths with
  | nil => exact fun t => .refl [] [] t
  | cons path above ih =>
    have hmade {t t' : Tree} (h : t.makeDirectory path = .ok t') :
        GrowsAt (path :: above) [] t t' :=
      (Tree.growsAt_of_makeDirectory h).mono (by simp)
    intro t
    unfold makeAll
    dsimp only
    split
    · exact .refl _ _ t
    · split
      · exact hmade ‹_›
      · refine Action.Respects.bind (fun u => (ih u).mono (by simp)) (fun _ u => ?_) t
        split
        · exact hmade ‹_›
        · split <;> exact .refl _ _ u
      · split <;> exact .refl _ _ t

def parentPaths (path : String) : List String :=
  match parent? path with
  | some parent => (lineage parent.toList).map String.ofList
  | none => []

theorem grows_makeParents (path : String) :
    (makeParents path).Respects (GrowsAt (parentPaths path) []) := by
  unfold makeParents parentPaths
  cases parent? path with
  | none => exact fun t => .refl [] [] t
  | some parent => exact grows_makeAll _

theorem replacing_eq_ok {change : Tree → Except FileError Tree}
    (h : (replacing change t).result = .ok ()) : change t = .ok (replacing change t).state := by
  rcases replacing_cases change t with ⟨u, hchange, hdone⟩ | ⟨e, hdone⟩
  · rw [hchange, hdone]
  · rw [hdone] at h
    exact absurd h (by simp)

/-- A write that succeeds makes directories, then writes its draft, then moves it. -/
theorem write_eq_ok (h : ((below base).write path content t).result = .ok ()) :
    ∃ drafted, (makeParents (join base path) t).state.overwrite
        (withExtension "tmp" (join base path)) content = .ok drafted ∧
      drafted.moveFile (withExtension "tmp" (join base path)) (join base path) =
        .ok ((below base).write path content t).state := by
  obtain ⟨_, hparents, h⟩ := Action.result_bind_eq_ok_iff.mp h
  obtain ⟨_, hdraft, h⟩ := Action.result_bind_eq_ok_iff.mp h
  have hstate : ((below base).write path content t).state = _ :=
    (Action.state_bind_of_ok hparents).trans (Action.state_bind_of_ok hdraft)
  rw [hstate]
  exact ⟨_, replacing_eq_ok hdraft, replacing_eq_ok h⟩

section Draft

variable {draft full : String} {drafted after : Tree}

/-- What a draft replaces when it takes the name of its file. -/
theorem eq_of_draft (hdraft : t.overwrite draft content = .ok drafted)
    (hmove : drafted.moveFile draft full = .ok after) :
    drafted = t.put (placeOf t draft) (.file content) ∧
      placeOf t draft ≠ [] ∧ placeOf t full ≠ [] ∧
      drafted.isDirectory (placeOf t full) = false ∧
      after = if placeOf t draft = placeOf t full then drafted
        else (drafted.clear (placeOf t draft)).put (placeOf t full) (.file content) := by
  obtain ⟨hempty, rfl⟩ := Tree.overwrite_eq_ok hdraft
  obtain ⟨_, _, moved, _, _, hmoved, hfull, hafter⟩ := Tree.moveFile_eq_ok hmove
  have hplace (path : String) :
      placeOf (t.put (placeOf t draft) (.file content)) path = placeOf t path :=
    Tree.placeOf_congr rfl
  rw [hplace] at hmoved hfull
  rw [hplace, hplace] at hafter
  rw [Tree.node?_put_self _ (Tree.ne_root hempty)] at hmoved
  obtain rfl := Option.some.inj hmoved
  exact ⟨rfl, Tree.ne_root hempty, Tree.ne_root hfull, hfull, hafter⟩

/-- What stands where when a draft has taken the name of its file. -/
theorem node?_of_draft (hdraft : t.overwrite draft content = .ok drafted)
    (hmove : drafted.moveFile draft full = .ok after) (q : Place) :
    after.node? q = if q = placeOf t full then some (.file content)
      else if q = placeOf t draft then none else t.node? q := by
  obtain ⟨rfl, hdraftRoot, hfullRoot, _, hafter⟩ := eq_of_draft hdraft hmove
  by_cases hsame : placeOf t draft = placeOf t full
  · rw [hafter, if_pos hsame, ← hsame]
    by_cases hq : q = placeOf t draft
    · rw [if_pos hq, hq, Tree.node?_put_self _ hdraftRoot]
    · rw [if_neg hq, if_neg hq, Tree.node?_put_of_ne _ hq]
  · rw [hafter, if_neg hsame]
    by_cases hfull : q = placeOf t full
    · rw [if_pos hfull, hfull, Tree.node?_put_self _ hfullRoot]
    · rw [if_neg hfull, Tree.node?_put_of_ne _ hfull]
      by_cases hq : q = placeOf t draft
      · rw [if_pos hq, hq, Tree.node?_clear_self hdraftRoot]
      · rw [if_neg hq, Tree.node?_clear_of_ne hq, Tree.node?_put_of_ne _ hq]

/-- The directories on the way to a file are no draft, so the file is found after the move. -/
theorem read_of_draft (hdraft : t.overwrite draft content = .ok drafted)
    (hmove : drafted.moveFile draft full = .ok after) : after.read full = .ok content := by
  have hafter := node?_of_draft hdraft hmove
  obtain ⟨rfl, hdraftRoot, _, hfile, heq⟩ := eq_of_draft hdraft hmove
  obtain ⟨p, name, _, htarget, hcheck, _, _, _⟩ := Tree.moveFile_eq_ok hmove
  have hkept : KeepsDirectories (t.put (placeOf t draft) (.file content)) after := by
    refine ⟨?_, fun q hq => ?_⟩
    · rw [heq]
      split <;> rfl
    · have hfull : q ≠ placeOf t full := by
        rintro rfl
        exact absurd hq (by simp [hfile])
      have hdraft : q ≠ placeOf t draft := by
        rintro rfl
        rw [Tree.isDirectory, Tree.node?_put_self _ hdraftRoot] at hq
        exact absurd hq (by simp)
      rw [Tree.isDirectory, Tree.node?_put_of_ne _ hdraft] at hq
      rw [Tree.isDirectory, hafter, if_neg hfull, if_neg hdraft]
      exact hq
  have hplace : p ++ [name] = placeOf t full :=
    (Tree.place_of_target htarget rfl).trans (Tree.placeOf_congr rfl)
  have hfind : after.find full = .ok (.file content) :=
    Tree.find_of_target (hkept.target_eq_ok htarget) hcheck (by rw [hplace, hafter, if_pos rfl])
  unfold Tree.read
  rw [hfind]
  rfl

end Draft

/-- A write that succeeds leaves the new content in its file, and makes no more than the directories
that the file needs. The place of the draft is then empty. So all other files stay exactly if none
stood there. -/
theorem write_touches_only_target_iff
    (h : ((below base).write path content t).result = .ok ()) :
    let full := join base path
    let draft := withExtension "tmp" full
    let after := ((below base).write path content t).state
    ((below base).read path after).result = .ok content ∧
      GrowsAt (parentPaths full) [placeOf t draft, placeOf t full] t after ∧
      (placeOf t draft ≠ placeOf t full → after.node? (placeOf t draft) = none) ∧
      (GrowsAt (parentPaths full) [placeOf t full] t after ↔
        placeOf t draft = placeOf t full ∨ t.node? (placeOf t draft) = none) := by
  intro full draft after
  obtain ⟨drafted, hdraft, hmove⟩ := write_eq_ok h
  have hgrown := grows_makeParents full t
  have hplace (path : String) : placeOf (makeParents full t).state path = placeOf t path :=
    Tree.placeOf_congr hgrown.workingDirectory
  have hnode := node?_of_draft hdraft hmove
  rw [hplace, hplace] at hnode
  have hgone (hne : placeOf t draft ≠ placeOf t full) : after.node? (placeOf t draft) = none := by
    rw [hnode, if_neg hne, if_pos rfl]
  have hgrows : GrowsAt (parentPaths full) [placeOf t draft, placeOf t full] t after := by
    refine ⟨(changesAt_write base path content t).1.mono (by simp [full, draft]),
      fun q hq hpaths => ?_⟩
    obtain ⟨hqdraft, hqfull⟩ : q ≠ placeOf t draft ∧ q ≠ placeOf t full := by simpa using hq
    rw [hnode, if_neg hqfull, if_neg hqdraft]
    exact hgrown.outside q (List.not_mem_nil) hpaths
  refine ⟨?_, hgrows, hgone, fun honly => ?_, fun hfree => ?_⟩
  · exact congrArg (Except.mapError Fault.file) (read_of_draft hdraft hmove)
  · refine or_iff_not_imp_left.mpr fun hne => ?_
    rcases honly.elsewhere _ (by simpa using hne) with hsame | ⟨hnone, _⟩
    · exact hsame.symm.trans (hgone hne)
    · exact hnone
  · refine hgrows.of_cons ?_
    by_cases hsame : placeOf t draft = placeOf t full
    · exact .inl (by simp [hsame])
    · exact .inr ((hgone hsame).trans (hfree.resolve_left hsame).symm)

/-- Notes whose name is that of the sheet but for the extension. -/
def notesBesideSheet : Tree where
  nodes := [(["data"], .directory), (["data", "cases.csv"], .file (Text.bytesOf "old")),
    (["data", "cases.tmp"], .file (Text.bytesOf "notes"))]
  workingDirectory := []

theorem write_touches_only_nested_target :
    let full := join "data" "nested/cases.csv"
    let after :=
      ((below "data").write "nested/cases.csv" (Text.bytesOf "new") notesBesideSheet).state
    ((below "data").read "nested/cases.csv" after).result = .ok (Text.bytesOf "new") ∧
      placeOf notesBesideSheet full = ["data", "nested", "cases.csv"] ∧
      GrowsAt (parentPaths full) [placeOf notesBesideSheet full] notesBesideSheet after := by
  have h := @write_touches_only_target_iff notesBesideSheet "nested/cases.csv" "data"
    (Text.bytesOf "new") (by decide +kernel)
  exact ⟨h.1, by decide +kernel, h.2.2.2.mpr (.inr (by decide +kernel))⟩

theorem write_touches_only_target_not_always :
    ¬∀ (base path : String) (content : Bytes) (t : Tree),
      ((below base).write path content t).result = .ok () →
        let after := ((below base).write path content t).state
        ((below base).read path after).result = .ok content ∧
          GrowsAt (parentPaths (join base path)) [placeOf t (join base path)] t after := by
  intro h
  obtain ⟨_, honly⟩ := h "data" "cases.csv" (Text.bytesOf "new") notesBesideSheet (by decide +kernel)
  have hlost := honly.elsewhere ["data", "cases.tmp"] (by decide +kernel)
  revert hlost
  decide +kernel

end CaseRouting.Files
