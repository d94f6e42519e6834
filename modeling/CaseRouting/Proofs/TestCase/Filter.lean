import CaseRouting.TestCase.Filter
import Mathlib.Tactic

/-!
# Filters and their limit

A filter keeps some test cases in their order, up to its limit. To leave test cases out beforehand
changes the answer exactly when one of them would be in it.
-/

namespace CaseRouting.Filter

variable {f : Filter} {cs : List TestCase}

theorem take_filter_eq_take_iff {α : Type} {p : α → Bool} {n : ℕ} {l : List α} (hl : l.Nodup) :
    (l.filter p).take n = l.take n ↔ ∀ a ∈ l.take n, p a = true := by
  induction l generalizing n with
  | nil => simp
  | cons a l ih =>
    obtain ⟨ha, hl⟩ := List.nodup_cons.mp hl
    cases n with
    | zero => simp
    | succ n =>
      by_cases hp : p a = true
      · rw [List.filter_cons_of_pos hp, List.take_succ_cons, List.take_succ_cons,
          List.cons_inj_right, ih hl, List.forall_mem_cons]
        simp [hp]
      · rw [List.filter_cons_of_neg hp, List.take_succ_cons]
        constructor
        · intro h
          have hmem : a ∈ (l.filter p).take (n + 1) := by simp [h]
          exact absurd (List.mem_of_mem_filter (List.mem_of_mem_take hmem)) ha
        · intro h
          exact absurd (h a List.mem_cons_self) hp

theorem cut_filter_eq_cut_iff {p : TestCase → Bool} (hcs : cs.Nodup) :
    f.cut (cs.filter p) = f.cut cs ↔ ∀ c ∈ f.cut cs, p c = true := by
  rw [cut, cut]
  cases f.limit with
  | none => exact List.filter_eq_self
  | some n => exact take_filter_eq_take_iff hcs

theorem apply_all (cs : List TestCase) : all.apply cs = cs := by
  simp [apply, cut, all, fits, statusFits, labelFits, titleFits]

theorem mem_of_mem_cut {c : TestCase} (h : c ∈ f.cut cs) : c ∈ cs := by
  rw [cut] at h
  cases hlimit : f.limit with
  | none => simpa [hlimit] using h
  | some n =>
    rw [hlimit] at h
    exact List.mem_of_mem_take h

theorem fits_of_mem_apply {c : TestCase} (h : c ∈ f.apply cs) : c ∈ cs ∧ f.fits c = true :=
  List.mem_filter.mp (mem_of_mem_cut h)

end CaseRouting.Filter
