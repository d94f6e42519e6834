import CaseRouting.Proofs.Files.Disk

/-!
# What opening a database changes

Opening a database makes the directories that it needs, and its file if there is none. Whether it
succeeds or not, the rows that are read at its place stay the same.
-/

namespace CaseRouting

open Files (Place Tree)
open Files.Tree (ChangesAt)

variable {t t' u : Tree} {p : Place} {place : Option Place} {path : String}
  {places : List Place}

/-- The database at a place; where there is none, no rows are read. -/
def Files.Tree.tableAt (t : Tree) (p : Place) : Table.Database :=
  match t.node? p with
  | some (.table db) => db
  | _ => ⟨[], false⟩

theorem Files.Tree.tableAt_of_node? {db : Table.Database} (h : t.node? p = some (.table db)) :
    t.tableAt p = db := by
  unfold tableAt
  rw [h]

theorem Files.Tree.ChangesAt.tableAt_eq (h : ChangesAt places t t') (hp : p ∉ places) :
    t'.tableAt p = t.tableAt p := by
  unfold Files.Tree.tableAt
  rcases h.elsewhere p hp with hsame | ⟨hnone, hnew⟩
  · rw [hsame]
  · rw [hnone, hnew]

namespace Table

/-- Where the database of a path is, if it is in a file. -/
def opened? (t : Tree) (path : String) : Option Place :=
  if isUnnamed path then none else some (placeOf t path)

theorem openAt_eq_ok (h : openAt path p t = .ok t') :
    ChangesAt [p] t t' ∧ t'.tableAt p = t.tableAt p := by
  unfold openAt at h
  split at h
  · exact absurd h (by simp)
  · rename_i hopenable
    have hroot : p ≠ [] := by
      rintro rfl
      exact absurd hopenable (by simp [isOpenable])
    split at h
    · obtain rfl := Except.ok.inj h
      exact ⟨.refl _ t, rfl⟩
    · exact absurd h (by simp)
    · rename_i hnotTable hnotFile
      obtain rfl := Except.ok.inj h
      refine ⟨Files.Tree.changesAt_put t p _, ?_⟩
      have hnew : (t.put p (.table ⟨[], false⟩)).node? p = some (.table ⟨[], false⟩) := by
        rw [Files.Tree.node?_put, if_neg hroot, if_pos rfl]
      rw [Files.Tree.tableAt_of_node? hnew]
      unfold Files.Tree.tableAt
      split
      · exact absurd ‹_› (hnotTable _)
      · rfl

/-- An attempt to open the database at a place, if it is in a file, and the tree after it. -/
structure Opens (place : Option Place) (t : Tree) (result : Except Fault (Option Place))
    (t' : Tree) : Prop where
  changes : ChangesAt place.toList t t'
  rows_kept : ∀ p ∈ place, t'.tableAt p = t.tableAt p
  place_eq : ∀ opened, result = .ok opened → opened = place

theorem Opens.of_error (hchanges : ChangesAt [] t t') (e : Fault) :
    Opens place t (.error e) t' where
  changes := hchanges.mono (by simp)
  rows_kept p _ := hchanges.tableAt_eq (by simp)
  place_eq opened hopened := absurd hopened (by simp)

theorem Opens.after {result : Except Fault (Option Place)} (hchanges : ChangesAt [] t u)
    (h : Opens place u result t') : Opens place t result t' where
  changes := (hchanges.mono (by simp)).trans h.changes
  rows_kept p hp := (h.rows_kept p hp).trans (hchanges.tableAt_eq (by simp))
  place_eq := h.place_eq

theorem opened?_congr (h : t'.workingDirectory = t.workingDirectory) :
    opened? t' path = opened? t path := by
  unfold opened?
  rw [Tree.placeOf_congr h]

/-- An action that opens the database of a path, or tries to. -/
def OpensPath (path : String) (x : Action Tree (Option Place)) : Prop :=
  ∀ t, Opens (opened? t path) t (x t).result (x t).state

theorem OpensPath.after {x : Action Tree Unit} {f : Unit → Action Tree (Option Place)}
    (hx : x.Respects (ChangesAt [])) (hf : OpensPath path (f ())) : OpensPath path (x >>= f) := by
  intro t
  rcases Action.bind_cases x f t with ⟨e, _, hresult, hstate⟩ | ⟨_, _, hresult, hstate⟩
  · rw [hresult, hstate]
    exact .of_error (hx t) e
  · rw [hresult, hstate, ← opened?_congr (hx t).workingDirectory]
    exact (hf _).after (hx t)

theorem opens_openFile (h : ¬isUnnamed path = true) (t : Tree) :
    Opens (opened? t path) t (openFile path t).result (openFile path t).state := by
  unfold openFile opened?
  rw [if_neg h]
  cases hopen : openAt path (placeOf t path) t with
  | error e =>
    simp only [hopen]
    exact .of_error (.refl [] t) e
  | ok u =>
    simp only [hopen]
    obtain ⟨hchanges, hkept⟩ := openAt_eq_ok hopen
    exact ⟨hchanges, fun p hp => Option.some.inj hp ▸ hkept, fun _ h => (Except.ok.inj h).symm⟩

/-- Opening a database makes at most its file and the directories on the way, and finds the rows
that were there. -/
theorem opensPath_openPath (path : String) : OpensPath path (openPath path) := by
  unfold openPath
  -- Each stage holds what follows it, so they are taken from the last to the first.
  extract_lets finish before reached
  have hfinish : OpensPath path (finish ()) := by
    simp only [finish]
    split
    · intro t
      rw [opened?, if_pos ‹_›]
      exact ⟨.refl _ t, fun _ _ => rfl, fun _ h => (Except.ok.inj h).symm⟩
    · exact opens_openFile ‹_›
  have hreached : OpensPath path (reached ()) := by
    simp only [reached]
    split
    · exact fun t => .of_error (.refl [] t) _
    · exact hfinish
  split
  · split
    · exact .after (Files.respects_makeDirectories _) hreached
    · exact hreached
  · exact hreached

end Table

end CaseRouting
