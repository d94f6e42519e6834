import CaseRouting.Proofs.TestCase.Filter

/-!
# Test cases left out beforehand

A source may answer a coarser question than a filter asks, and leave the rest of it to the filter.
As long as it deletes only test cases that the filter does not pick, and keeps the others in their
order, the answer is the same, wherever the limit of the filter cuts.
-/

namespace CaseRouting.Filter

variable {f : Filter} {cs ds : List TestCase}

/-- Some of the test cases that the filter does not pick are deleted from a list, and the others
keep their order. -/
inductive Thins (f : Filter) : List TestCase → List TestCase → Prop
  | nil : Thins f [] []
  | keep (c : TestCase) {cs ds} : Thins f cs ds → Thins f (c :: cs) (c :: ds)
  | delete {c : TestCase} {cs ds} : f.fits c = false → Thins f cs ds → Thins f (c :: cs) ds

theorem Thins.sublist (h : f.Thins cs ds) : ds.Sublist cs := by
  induction h with
  | nil => exact .slnil
  | keep c _ ih => exact ih.cons_cons c
  | delete _ _ ih => exact ih.cons _

theorem Thins.filter_fits (h : f.Thins cs ds) : ds.filter f.fits = cs.filter f.fits := by
  induction h with
  | nil => rfl
  | keep c _ ih => rw [List.filter_cons, List.filter_cons, ih]
  | delete hc _ ih => rw [List.filter_cons_of_neg (by simp [hc]), ih]

theorem thins_of_sublist (hsub : ds.Sublist cs) (hfits : ds.filter f.fits = cs.filter f.fits) :
    f.Thins cs ds := by
  induction hsub with
  | slnil => exact .nil
  | @cons ds cs c hsub ih =>
    cases hc : f.fits c with
    | false =>
      rw [List.filter_cons_of_neg (by simp [hc])] at hfits
      exact .delete hc (ih hfits)
    | true =>
      -- the deleted test case would be missing among those that fit
      have hlen := (hsub.filter f.fits).length_le
      rw [hfits, List.filter_cons_of_pos hc, List.length_cons] at hlen
      omega
  | @cons_cons ds cs c hsub ih =>
    refine .keep c (ih ?_)
    cases hc : f.fits c with
    | false =>
      rwa [List.filter_cons_of_neg (by simp [hc]), List.filter_cons_of_neg (by simp [hc])] at hfits
    | true =>
      rw [List.filter_cons_of_pos hc, List.filter_cons_of_pos hc] at hfits
      exact (List.cons.inj hfits).2

/-- What keeps its order has been thinned exactly if nothing that fits was lost. -/
theorem thins_iff : f.Thins cs ds ↔ ds.Sublist cs ∧ ds.filter f.fits = cs.filter f.fits :=
  ⟨fun h => ⟨h.sublist, h.filter_fits⟩, fun h => thins_of_sublist h.1 h.2⟩

/-- To keep what answers a coarser question is to thin. -/
theorem thins_filter {p : TestCase → Bool} (h : ∀ c ∈ cs, f.fits c = true → p c = true) :
    f.Thins cs (cs.filter p) := by
  refine thins_iff.mpr ⟨List.filter_sublist, ?_⟩
  rw [List.filter_filter]
  refine List.filter_congr fun c hc => ?_
  cases hfits : f.fits c with
  | false => rfl
  | true => rw [h c hc hfits, Bool.and_self]

/-! ## Limits -/

def withLimit (f : Filter) (limit : Option ℕ) : Filter := { f with limit := limit }

theorem apply_withLimit_none (f : Filter) (cs : List TestCase) :
    (f.withLimit none).apply cs = cs.filter f.fits := rfl

theorem apply_withLimit_some (f : Filter) (n : ℕ) (cs : List TestCase) :
    (f.withLimit (some n)).apply cs = (cs.filter f.fits).take n := rfl

theorem apply_of_filter_fits (h : ds.filter f.fits = cs.filter f.fits) : f.apply ds = f.apply cs := by
  rw [apply, apply, h]

/-- Nothing else may be deleted, if the answer is to be the same at every limit. -/
theorem forall_apply_withLimit_eq_iff (hsub : ds.Sublist cs) :
    (∀ limit, (f.withLimit limit).apply ds = (f.withLimit limit).apply cs) ↔ f.Thins cs ds :=
  ⟨fun h => thins_of_sublist hsub (h none), fun h _ => apply_of_filter_fits h.filter_fits⟩

theorem cut_cut {α : Type} (f : Filter) (as : List α) : f.cut (f.cut as) = f.cut as := by
  simp only [cut]
  cases f.limit with
  | none => rfl
  | some n => exact List.take_take.trans (congrArg (List.take · as) (Nat.min_self n))

theorem filter_fits_apply (f : Filter) (cs : List TestCase) :
    (f.apply cs).filter f.fits = f.apply cs :=
  List.filter_eq_self.mpr fun _ hc => (fits_of_mem_apply hc).2

/-- Test cases that do not fit may be deleted before a filter is applied, and to apply it once more
changes nothing. Without a limit it thins a list to all that fits, and with one it keeps the first
of those. -/
theorem apply_of_thins (f : Filter) (cs : List TestCase) :
    (∀ ds, f.Thins cs ds → f.apply ds = f.apply cs) ∧
      f.apply (f.apply cs) = f.apply cs ∧
      (f.Thins cs ((f.withLimit none).apply cs) ∧
        ∀ c ∈ (f.withLimit none).apply cs, f.fits c = true) ∧
      ∀ n, (f.withLimit (some n)).apply cs = ((f.withLimit none).apply cs).take n := by
  refine ⟨fun ds h => apply_of_filter_fits h.filter_fits, ?_, ⟨?_, fun c hc => ?_⟩, fun n => ?_⟩
  · calc
      f.apply (f.apply cs) = f.cut (f.apply cs) := by rw [apply, filter_fits_apply]
      _ = f.apply cs := by rw [apply, cut_cut]
  · rw [apply_withLimit_none]
    exact thins_filter fun _ _ hfits => hfits
  · rw [apply_withLimit_none] at hc
    exact List.of_mem_filter hc
  · rw [apply_withLimit_some, apply_withLimit_none]

def firstTwoActive : Filter := ⟨some .active, none, none, some 2⟩

/-- Three active test cases, with a draft before each of them. -/
def mixedCases : List TestCase := [
  .draft "t1" "Login", { TestCase.draft "t2" "Login with SSO" with status := .active },
  .draft "t3" "Logout", { TestCase.draft "t4" "Logout twice" with status := .active },
  .draft "t5" "Search", { TestCase.draft "t6" "Search again" with status := .active }]

/-- A draft before and one behind the cut of the limit are deleted, and one is not. -/
theorem apply_of_thins_mixedCases :
    let left := mixedCases.filter fun c => c.id != "t1" && c.id != "t5"
    left.length = 4 ∧ firstTwoActive.Thins mixedCases left ∧
      (firstTwoActive.apply left).map TestCase.id = ["t2", "t4"] ∧
      ∃ c ∈ (firstTwoActive.withLimit none).apply mixedCases,
        c.id = "t6" ∧ firstTwoActive.fits c = true := by
  intro left
  have hthins : firstTwoActive.Thins mixedCases left := thins_filter (by decide +kernel)
  obtain ⟨hthinned, _, ⟨_, hfits⟩, _⟩ := apply_of_thins firstTwoActive mixedCases
  have hids : (firstTwoActive.apply mixedCases).map TestCase.id = ["t2", "t4"] := by
    decide +kernel
  have hlast : { TestCase.draft "t6" "Search again" with status := .active } ∈
      (firstTwoActive.withLimit none).apply mixedCases := by decide +kernel
  exact ⟨by decide +kernel, hthins, hthinned left hthins ▸ hids, _, hlast, rfl, hfits _ hlast⟩

end CaseRouting.Filter
