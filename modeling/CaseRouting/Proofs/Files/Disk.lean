import CaseRouting.Proofs.Action
import CaseRouting.Table.Opening

/-!
# Where a disk changes

An operation on files changes the place that its path leads to, whatever stands on the way, and
makes directories where nothing stood. So what is stored elsewhere stays: a file is replaced through
its draft alone, and a database is opened at its own place.
-/

namespace CaseRouting.Files

open Table (follow placeOf)

variable {t t' u : Tree} {p q : Place} {path base : String} {places more : List Place}

namespace Tree

/-- The file or database at a place. A directory holds nothing of its own. -/
def stored? (t : Tree) (p : Place) : Option Node := (t.node? p).filter (· != .directory)

theorem placeOf_congr (h : t'.workingDirectory = t.workingDirectory) :
    placeOf t' path = placeOf t path := by
  unfold placeOf
  rw [h]

theorem node?_put_of_ne (n : Node) (h : p ≠ q) : (t.put q n).node? p = t.node? p := by
  rw [node?_put, if_neg h]
  split
  · rename_i hroot
    rw [hroot]
    rfl
  · rfl

theorem node?_put_self (n : Node) (h : p ≠ []) : (t.put p n).node? p = some n := by
  rw [node?_put, if_neg h, if_pos rfl]

theorem node?_clear_of_ne (h : p ≠ q) : (t.clear q).node? p = t.node? p := by
  rw [node?_clear, if_neg h]
  split
  · rename_i hroot
    rw [hroot]
    rfl
  · rfl

theorem node?_clear_self (h : p ≠ []) : (t.clear p).node? p = none := by
  rw [node?_clear, if_neg h, if_pos rfl]

theorem ne_root (h : t.isDirectory p = false) : p ≠ [] := by
  rintro rfl
  exact absurd h (by simp [isDirectory, node?])

/-- Outside some places, a tree changes at most by directories where nothing stood. -/
structure ChangesAt (places : List Place) (t t' : Tree) : Prop where
  workingDirectory : t'.workingDirectory = t.workingDirectory
  elsewhere : ∀ p, p ∉ places →
    t'.node? p = t.node? p ∨ t.node? p = none ∧ t'.node? p = some .directory

namespace ChangesAt

theorem refl (places : List Place) (t : Tree) : ChangesAt places t t := ⟨rfl, fun _ _ => .inl rfl⟩

theorem mono (h : ChangesAt places t t') (hsub : places ⊆ more) : ChangesAt more t t' :=
  ⟨h.workingDirectory, fun p hp => h.elsewhere p fun hmem => hp (hsub hmem)⟩

theorem trans (h : ChangesAt places t t') (h' : ChangesAt places t' u) : ChangesAt places t u := by
  refine ⟨h'.workingDirectory.trans h.workingDirectory, fun p hp => ?_⟩
  rcases h'.elsewhere p hp with hsame | ⟨hnone, hnew⟩
  · rw [hsame]
    exact h.elsewhere p hp
  · rcases h.elsewhere p hp with hsame | ⟨_, hmade⟩
    · exact .inr ⟨hsame.symm.trans hnone, hnew⟩
    · exact absurd (hmade.symm.trans hnone) (by simp)

theorem stored?_eq (h : ChangesAt places t t') (hp : p ∉ places) : t'.stored? p = t.stored? p := by
  unfold stored?
  rcases h.elsewhere p hp with hsame | ⟨hnone, hnew⟩
  · rw [hsame]
  · rw [hnone, hnew]
    rfl

instance : Std.Refl (ChangesAt places) := ⟨.refl places⟩

instance : IsTrans Tree (ChangesAt places) := ⟨fun _ _ _ => .trans⟩

end ChangesAt

theorem ChangesAt.of_ne (hdirectory : t'.workingDirectory = t.workingDirectory)
    (hne : ∀ q, q ≠ p → t'.node? q = t.node? q) : ChangesAt [p] t t' :=
  ⟨hdirectory, fun q hq => .inl (hne q fun heq => hq (List.mem_singleton.mpr heq))⟩

theorem changesAt_put (t : Tree) (p : Place) (n : Node) : ChangesAt [p] t (t.put p n) :=
  .of_ne rfl fun _ => node?_put_of_ne n

theorem changesAt_clear (t : Tree) (p : Place) : ChangesAt [p] t (t.clear p) :=
  .of_ne rfl fun _ => node?_clear_of_ne

theorem changesAt_put_directory (h : t.node? p = none) : ChangesAt [] t (t.put p .directory) := by
  refine ⟨rfl, fun q _ => ?_⟩
  by_cases hq : q = p
  · subst hq
    have hroot : q ≠ [] := by
      rintro rfl
      exact absurd h (by simp [node?])
    exact .inr ⟨h, node?_put_self _ hroot⟩
  · exact .inl (node?_put_of_ne _ hq)

/-! ## Following a path -/

theorem step_eq_ok {name : String} (h : t.step p name = .ok q) : q = follow p name := by
  unfold step at h
  unfold follow
  split at h
  · exact absurd h (by simp)
  · split at h
    · rw [if_pos ‹_›]
      exact (Except.ok.inj h).symm
    · rw [if_neg ‹_›]
      split at h
      · rw [if_pos ‹_›]
        exact (Except.ok.inj h).symm
      · rw [if_neg ‹_›]
        obtain ⟨_, _, h⟩ := bind_eq_ok_iff.mp h
        split at h
        · exact (Except.ok.inj h).symm
        · exact absurd h (by simp)

theorem walk_eq_ok {names : List String} (h : t.walk p names = .ok q) :
    q = names.foldl follow p := by
  induction names generalizing p with
  | nil => exact (Except.ok.inj h).symm
  | cons name names ih =>
    rw [walk, List.foldlM_cons] at h
    obtain ⟨middle, hstep, hrest⟩ := bind_eq_ok_iff.mp h
    rw [List.foldl_cons, ← step_eq_ok hstep]
    exact ih hrest

theorem route_eq_ok {r : Route} (h : t.route path = .ok r) :
    r.names.foldl follow r.start = placeOf t path := by
  unfold route at h
  split at h
  · exact absurd h (by simp)
  · split at h
    · exact absurd h (by simp)
    · split at h
      · exact absurd h (by simp)
      · obtain rfl := Except.ok.inj h
        rfl

/-- Where a path ends with a name, it ends at its place. -/
theorem place_of_target {goal : Target} {name : String} (h : t.target path = .ok goal)
    (hname : goal.name = some name) : goal.directory ++ [name] = placeOf t path := by
  unfold target at h
  obtain ⟨r, hroute, h⟩ := bind_eq_ok_iff.mp h
  rw [← route_eq_ok hroute]
  cases hlast : r.names.getLast? with
  | none =>
    rw [hlast] at h
    obtain rfl := Except.ok.inj h
    exact absurd hname (by simp)
  | some last =>
    rw [hlast] at h
    obtain ⟨p, hwalk, h⟩ := bind_eq_ok_iff.mp h
    have hnames : r.names = r.names.dropLast ++ [last] :=
      (List.dropLast_append_getLast? last hlast).symm
    rw [hnames, List.foldl_append, ← walk_eq_ok hwalk]
    split at h
    · exact absurd h (by simp)
    · split at h
      · obtain rfl := Except.ok.inj h
        exact absurd hname (by simp)
      · obtain rfl := Except.ok.inj h
        obtain rfl := Option.some.inj hname
        have hdots := not_or.mp ‹¬(last = "." ∨ last = "..")›
        rw [List.foldl_cons, List.foldl_nil, follow, if_neg hdots.1, if_neg hdots.2]

/-! ## One operation -/

theorem overwrite_eq_ok {content : Bytes} (h : t.overwrite path content = .ok t') :
    t.isDirectory (placeOf t path) = false ∧ t' = t.put (placeOf t path) (.file content) := by
  unfold overwrite at h
  obtain ⟨goal, htarget, h⟩ := bind_eq_ok_iff.mp h
  split at h
  · exact absurd h (by simp)
  · rename_i name hname
    rw [place_of_target htarget hname] at h
    split at h
    · exact absurd h (by simp)
    · obtain ⟨_, _, h⟩ := bind_eq_ok_iff.mp h
      split at h
      · exact absurd h (by simp)
      · exact ⟨by simpa using ‹¬t.isDirectory _ = true›, (Except.ok.inj h).symm⟩

theorem makeDirectory_eq_ok (h : t.makeDirectory path = .ok t') :
    t.node? (placeOf t path) = none ∧ t' = t.put (placeOf t path) .directory := by
  unfold makeDirectory at h
  obtain ⟨goal, htarget, h⟩ := bind_eq_ok_iff.mp h
  split at h
  · exact absurd h (by simp)
  · rename_i name hname
    obtain ⟨_, _, h⟩ := bind_eq_ok_iff.mp h
    rw [place_of_target htarget hname] at h
    split at h
    · exact absurd h (by simp)
    · exact ⟨by simpa using ‹¬(t.node? _).isSome = true›, (Except.ok.inj h).symm⟩

/-- A file that is moved leaves its place to nothing, unless it is moved to where it is. -/
theorem moveFile_eq_ok {source destination : String} (h : t.moveFile source destination = .ok t') :
    ∃ p name moved, t.target destination = .ok ⟨p, some name, false⟩ ∧ checkName name = .ok () ∧
      t.node? (placeOf t source) = some moved ∧
      t.isDirectory (placeOf t destination) = false ∧
      t' = if placeOf t source = placeOf t destination then t
        else (t.clear (placeOf t source)).put (placeOf t destination) moved := by
  unfold moveFile at h
  obtain ⟨old, hold, h⟩ := bind_eq_ok_iff.mp h
  obtain ⟨⟨directory, end?, closed⟩, hnew, h⟩ := bind_eq_ok_iff.mp h
  split at h
  · rename_i oldName newName holdName hnewName
    obtain rfl : end? = some newName := hnewName
    obtain ⟨_, _, h⟩ := bind_eq_ok_iff.mp h
    rw [place_of_target hold holdName] at h
    split at h
    · exact absurd h (by simp)
    · rename_i moved hmoved
      obtain ⟨_, hcheck, h⟩ := bind_eq_ok_iff.mp h
      dsimp only at h
      rw [place_of_target hnew rfl] at h
      split at h
      · exact absurd h (by simp)
      · rename_i hopen
        split at h
        · exact absurd h (by simp)
        · rename_i hdirectory
          have hclosed : closed = false :=
            (Bool.or_eq_false_iff.mp (Bool.eq_false_of_not_eq_true hopen)).2
          refine ⟨directory, newName, moved, hclosed ▸ hnew, hcheck, hmoved,
            by simpa using hdirectory, ?_⟩
          split at h
          · rename_i hsame
            rw [if_pos hsame, Except.ok.inj h]
          · rename_i hother
            rw [if_neg hother, Except.ok.inj h]
  · exact absurd h (by simp)

theorem changesAt_of_overwrite {content : Bytes} (h : t.overwrite path content = .ok t') :
    ChangesAt [placeOf t path] t t' := by
  rw [(overwrite_eq_ok h).2]
  exact changesAt_put t _ _

theorem changesAt_of_makeDirectory (h : t.makeDirectory path = .ok t') : ChangesAt [] t t' := by
  obtain ⟨hnone, rfl⟩ := makeDirectory_eq_ok h
  exact changesAt_put_directory hnone

theorem changesAt_of_moveFile {source destination : String}
    (h : t.moveFile source destination = .ok t') :
    ChangesAt [placeOf t source, placeOf t destination] t t' := by
  obtain ⟨_, _, moved, _, _, _, _, rfl⟩ := moveFile_eq_ok h
  split
  · exact .refl _ t
  · exact ((changesAt_clear t _).mono (by simp)).trans ((changesAt_put _ _ _).mono (by simp))

end Tree

/-! ## Operations one after the other -/

open CaseRouting.Files.Tree (ChangesAt)

theorem replacing_cases (change : Tree → Except FileError Tree) (t : Tree) :
    (∃ u, change t = .ok u ∧ replacing change t = ⟨.ok (), u, []⟩) ∨
      ∃ e, replacing change t = ⟨.error (.file e), t, []⟩ := by
  unfold replacing
  cases change t with
  | ok u => exact .inl ⟨u, rfl, rfl⟩
  | error e => exact .inr ⟨e, rfl⟩

theorem respects_makeAll (paths : List String) :
    (makeAll paths).Respects (ChangesAt []) := by
  have hunless (path : String) (e : FileError) (t : Tree) :
      (if t.leadsToDirectory path then (⟨.ok (), t, []⟩ : Outcome Tree Unit)
        else ⟨.error (.file e), t, []⟩).state = t := by
    split <;> rfl
  induction paths with
  | nil => exact fun t => .refl [] t
  | cons path above ih =>
    intro t
    unfold makeAll
    dsimp only
    split
    · exact .refl [] t
    · split
      · exact Tree.changesAt_of_makeDirectory ‹_›
      · refine Action.Respects.bind ih (fun _ u => ?_) t
        split
        · exact Tree.changesAt_of_makeDirectory ‹_›
        · rw [hunless]
          exact .refl [] u
      · rw [hunless]
        exact .refl [] t

theorem respects_makeDirectories (path : String) :
    (makeDirectories path).Respects (ChangesAt []) :=
  respects_makeAll _

theorem respects_makeParents (path : String) : (makeParents path).Respects (ChangesAt []) := by
  unfold makeParents
  split
  · exact respects_makeDirectories _
  · exact fun t => .refl [] t

/-- A draft that is written and then takes the name of a file: where that fails, only the draft has
changed. -/
theorem changesAt_replacing (draft full : String) (content : Bytes) (t : Tree) :
    let done := (replacing (fun t => t.overwrite draft content) >>= fun _ =>
      replacing fun t => t.moveFile draft full) t
    ChangesAt [placeOf t draft] t done.state ∨
      done.result = .ok () ∧ ChangesAt [placeOf t full, placeOf t draft] t done.state := by
  dsimp only
  rcases replacing_cases (fun t => t.overwrite draft content) t with
    ⟨u, hdraft, hwritten⟩ | ⟨e, hwritten⟩
  · have hchanged := Tree.changesAt_of_overwrite hdraft
    rw [Action.state_bind_of_ok (congrArg Outcome.result hwritten),
      Action.result_bind_of_ok (congrArg Outcome.result hwritten), hwritten]
    rcases replacing_cases (fun t => t.moveFile draft full) u with
      ⟨v, hmove, hmoved⟩ | ⟨e, hmoved⟩
    · have hrenamed := Tree.changesAt_of_moveFile hmove
      rw [Tree.placeOf_congr hchanged.workingDirectory,
        Tree.placeOf_congr hchanged.workingDirectory] at hrenamed
      rw [hmoved]
      exact .inr ⟨rfl, (hchanged.mono (by simp)).trans (hrenamed.mono (by simp))⟩
    · rw [hmoved]
      exact .inl hchanged
  · rw [Action.state_bind_of_error (congrArg Outcome.result hwritten), hwritten]
    exact .inl (.refl _ t)

/-- A write that fails has changed nothing but its draft, and one that succeeds, also its file. -/
theorem changesAt_write (base path : String) (content : Bytes) (t : Tree) :
    let full := join base path
    let draft := withExtension "tmp" full
    let done := (below base).write path content t
    ChangesAt [placeOf t full, placeOf t draft] t done.state ∧
      (∀ e, done.result = .error e → ChangesAt [placeOf t draft] t done.state) := by
  intro full draft done
  have hdone : done = (makeParents full >>= fun _ =>
    replacing (fun t => t.overwrite draft content) >>= fun _ =>
      replacing fun t => t.moveFile draft full) t := rfl
  suffices h : ChangesAt [placeOf t draft] t done.state ∨
      done.result = .ok () ∧ ChangesAt [placeOf t full, placeOf t draft] t done.state by
    rcases h with h | ⟨hok, h⟩
    · exact ⟨h.mono (by simp), fun _ _ => h⟩
    · exact ⟨h, fun e he => absurd (hok.symm.trans he) (by simp)⟩
  have hparents := respects_makeParents full t
  cases hmade : (makeParents full t).result with
  | error e =>
    rw [hdone, Action.state_bind_of_error hmade]
    exact .inl (hparents.mono (by simp))
  | ok _ =>
    rw [hdone, Action.state_bind_of_ok hmade, Action.result_bind_of_ok hmade]
    have hreplaced := changesAt_replacing draft full content (makeParents full t).state
    rw [Tree.placeOf_congr hparents.workingDirectory,
      Tree.placeOf_congr hparents.workingDirectory] at hreplaced
    exact hreplaced.imp (hparents.mono (by simp)).trans
      (And.imp_right (hparents.mono (by simp)).trans)

end CaseRouting.Files
