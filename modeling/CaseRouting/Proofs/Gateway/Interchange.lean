import CaseRouting.Proofs.Sheet.Catalogue
import CaseRouting.Proofs.Table.Catalogue

/-!
# A sheet and a table in each other's place

A sheet and a table that are given the same test cases cannot be told apart by a run of calls, as
both answer it as the catalogue of these test cases does. The test cases and the texts that calls
set must be such as a sheet can hold, and the sheet needs them in the order of their ids, in which
the table lists them.
-/

namespace CaseRouting

open Files (MemoryFile memory)

variable {cs : List TestCase}

def IdsAscend (cs : List TestCase) : Prop :=
  cs.Pairwise fun a b => Catalogue.IdLe a.id b.id ∧ a.id ≠ b.id

instance (cs : List TestCase) : Decidable (IdsAscend cs) :=
  inferInstanceAs (Decidable (cs.Pairwise fun a b => Catalogue.IdLe a.id b.id ∧ a.id ≠ b.id))

theorem IdsAscend.nodup (h : IdsAscend cs) : (cs.map TestCase.id).Nodup := by
  unfold List.Nodup
  rw [List.pairwise_map]
  exact h.imp fun hab => hab.2

theorem IdsAscend.forM_add (h : IdsAscend cs) :
    (cs.forM Catalogue.add ∅).result = .ok () ∧
      Catalogue.Lists (cs.forM Catalogue.add ∅).state cs ∧
        cs = Catalogue.inOrder (cs.forM Catalogue.add ∅).state := by
  obtain ⟨hresult, hlists⟩ := Catalogue.lists_empty.forM_add h.nodup fun c _ => Finmap.notMem_empty
  exact ⟨hresult, hlists, hlists.eq_inOrder (h.imp fun hab => hab.1)⟩

theorem Sheet.holds_save (file : String) {s : MemoryFile} {m : Catalogue}
    (hlists : Catalogue.Lists m cs) (hordered : cs = m.inOrder) (hfit : ∀ c ∈ cs, IsFit c)
    (htimes : ∀ c ∈ cs, c.HasStorableTime) (hrefusal : s.refusal = none) :
    Holds file (save memory file cs s).state m := by
  rw [state_save hrefusal, hrefusal]
  subst hordered
  exact holds_encode hlists hfit htimes

theorem Table.agree_forM_insert (htimes : ∀ c ∈ cs, c.HasStorableTime) :
    Agree Holds (cs.forM insert) (cs.forM Catalogue.add) :=
  Agree.forM fun c hc => agree_insert (htimes c hc)

/-- The same test cases, saved to a sheet and inserted into an empty table, are answered alike by
both along every run. -/
theorem results_sheet_eq_table {file : String} {s : MemoryFile} {run : List Step}
    (hids : IdsAscend cs) (hfit : ∀ c ∈ cs, Sheet.IsFit c) (htimes : ∀ c ∈ cs, c.HasStorableTime)
    (hrefusal : s.refusal = none) (hcalls : ∀ step ∈ run, Sheet.IsFitCall step.call)
    (hclock : ∀ step ∈ run, step.now.HasFourDigitYear) :
    (Sheet.save memory file cs s).result = .ok () ∧
      (cs.forM Table.insert ⟨[], false⟩).result = .ok () ∧
        results (Sheet.gateway memory file) (Sheet.save memory file cs s).state run =
          results (Table.gateway .never) (cs.forM Table.insert ⟨[], false⟩).state run := by
  obtain ⟨hadded, hlists, hordered⟩ := hids.forM_add
  obtain ⟨hinserted, htable⟩ := Table.agree_forM_insert htimes _ _ Table.holds_empty
  have hsheet := Sheet.holds_save file hlists hordered hfit htimes hrefusal
  refine ⟨Sheet.result_save_eq_ok_iff.mpr hrefusal, hinserted.trans hadded, ?_⟩
  calc results (Sheet.gateway memory file) (Sheet.save memory file cs s).state run
      = results Catalogue.gateway (cs.forM Catalogue.add ∅).state run := by
        apply results_eq ?_ hsheet
        intro step hstep
        exact Sheet.agree_answer (hclock step hstep) (hcalls step hstep)
    _ = results (Table.gateway .never) (cs.forM Table.insert ⟨[], false⟩).state run := by
        symm
        apply results_eq ?_ htable
        intro step hstep
        exact Table.agree_answer (hclock step hstep) step.call

/-- Test cases whose cells are quoted, and one that no command can activate. -/
def quotedCases : List TestCase := [
  ⟨"t1", "a, \"b\"\nc", .draft, some "high", ["x y", "z"], some (.startOfYear 0)⟩,
  ⟨"t2", "Logout", .deprecated, none, [], none⟩]

/-- Commands that succeed, that are refused and that find nothing, and a query for what is left. -/
def quotedRun : List Step :=
  let time : Instant := .startOfYear 9999
  [⟨time, .command .activate "t1"⟩,
    ⟨time, .command .activate "t2"⟩,
    ⟨time, .command (.update ⟨some "", none, some [""]⟩) "t2"⟩,
    ⟨time, .command (.update ⟨some "\"", some "low", some ["y", "y"]⟩) "t2"⟩,
    ⟨time, .get "t3"⟩,
    ⟨time, .list ⟨none, some "Y", none, some 1⟩⟩]

theorem results_of_quotedCases :
    (Sheet.save memory "cases.csv" quotedCases ⟨none, none, 0⟩).result = .ok () ∧
      (quotedCases.forM Table.insert ⟨[], false⟩).result = .ok () ∧
        results (Sheet.gateway memory "cases.csv")
            (Sheet.save memory "cases.csv" quotedCases ⟨none, none, 0⟩).state quotedRun =
          results (Table.gateway .never) (quotedCases.forM Table.insert ⟨[], false⟩).state
            quotedRun :=
  results_sheet_eq_table (by decide +kernel) (by decide +kernel) (by decide +kernel) rfl
    (by decide +kernel) (by decide +kernel)

end CaseRouting
