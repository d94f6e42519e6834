import CaseRouting.Proofs.Table.Order
import CaseRouting.Proofs.Table.Row
import CaseRouting.Proofs.TestCase.Basic
import CaseRouting.Proofs.TestCase.Filter

/-!
# Listing through the status cell

A filter with a status reads only the rows whose cell holds the status word itself. The other rows
of that status are lost, so the answer is the filtered table exactly when none of them would be in
it.
-/

namespace CaseRouting.Table

variable {rows : List Row} {all : List TestCase} {f : Filter}

/-- The status cell of the row of a test case holds the word for its status. -/
def isPlain (rows : List Row) (c : TestCase) : Bool :=
  (findRow c.id rows).any (·.status == .text c.status.name)

/-- A test case that a filter's status finds in its row. -/
def isSelected (f : Filter) (rows : List Row) (c : TestCase) : Bool :=
  f.status.all fun status => c.status == status && isPlain rows c

theorem inOrder_perm (rows : List Row) : (inOrder rows).Perm rows := List.mergeSort_perm _ _

theorem findRow_of_toTestCase (hkeys : HasUniqueIds rows) {r : Row} {c : TestCase} (hr : r ∈ rows)
    (h : r.toTestCase = .ok c) : findRow c.id rows = some r :=
  (findRow_eq_some_iff hkeys).mpr ⟨hr, Row.id_of_toTestCase h⟩

theorem status_beq_iff_isSelected (hkeys : HasUniqueIds rows) {status : Status}
    (hf : f.status = some status) {r : Row} {c : TestCase} (hr : r ∈ rows)
    (h : r.toTestCase = .ok c) :
    (r.status == .text status.name) = true ↔ isSelected f rows c = true := by
  obtain ⟨s, hs, hstatus⟩ := Row.status_of_toTestCase h
  rw [isSelected, hf, isPlain, findRow_of_toTestCase hkeys hr h, hs]
  simp only [Option.all_some, Option.any_some, Bool.and_eq_true, beq_iff_eq, Cell.text.injEq]
  rw [hs, Cell.text.injEq]
  constructor
  · rintro rfl
    obtain rfl : status = c.status := Option.some.inj ((Status.ofCell?_name _).symm.trans hstatus)
    exact ⟨rfl, rfl⟩
  · rintro ⟨rfl, rfl⟩
    rfl

theorem casesOf_selected (hkeys : HasUniqueIds rows) (hall : casesOf (inOrder rows) = .ok all) :
    casesOf (inOrder (selected f rows)) = .ok (all.filter (isSelected f rows)) := by
  cases hf : f.status with
  | none =>
    have hselected : selected f rows = rows := by rw [selected, hf]
    have hfilter : all.filter (isSelected f rows) = all :=
      List.filter_eq_self.mpr fun c _ => by simp [isSelected, hf]
    rw [hselected, hfilter, hall]
  | some status =>
    have hselected : selected f rows = rows.filter (·.status == .text status.name) := by
      rw [selected, hf]
    rw [hselected, inOrder_filter, casesOf_eq_ok_iff]
    have hrows := (List.forall₂_and_left _ _).mpr
      ⟨fun r hr => (inOrder_perm rows).mem_iff.mp hr, casesOf_eq_ok_iff.mp hall⟩
    exact (List.rel_filter (fun r c h => status_beq_iff_isSelected hkeys hf h.1 h.2) hrows).imp
      fun _ _ h => h.2

theorem HasUniqueIds.inOrder (hkeys : HasUniqueIds rows) : HasUniqueIds (inOrder rows) := by
  refine ((inOrder_perm rows).pairwise_iff fun {a b} h he => ?_).mpr hkeys
  rw [he]
  exact h he.symm

theorem nodup_of_casesOf (hkeys : HasUniqueIds rows) (h : casesOf rows = .ok all) : all.Nodup := by
  replace h := casesOf_eq_ok_iff.mp h
  induction h with
  | nil => simp
  | cons hc hcs ih =>
    obtain ⟨hr, hkeys⟩ := List.pairwise_cons.mp hkeys
    refine List.nodup_cons.mpr ⟨fun hmem => ?_, ih hkeys⟩
    obtain ⟨r', hr', hc'⟩ := exists_of_forall₂_of_mem hcs hmem
    have hnull := hr r' hr' ((Row.id_of_toTestCase hc).trans (Row.id_of_toTestCase hc').symm)
    exact absurd ((Row.id_of_toTestCase hc).symm.trans hnull) (by simp)

theorem casesOf_of_listCases_all (hall : listCases .all rows = .ok all) :
    casesOf (inOrder rows) = .ok all := by
  obtain ⟨cs, hcs, hall⟩ := map_eq_ok_iff.mp hall
  rw [Filter.apply_all] at hall
  exact hall ▸ hcs

/-- A filter's answer lacks exactly the test cases that its status does not find. -/
theorem listCases_eq_ok (hkeys : HasUniqueIds rows) (hall : listCases .all rows = .ok all) :
    listCases f rows = .ok (f.cut ((all.filter f.fits).filter (isSelected f rows))) := by
  rw [listCases, casesOf_selected hkeys (casesOf_of_listCases_all hall)]
  change Except.ok (f.apply _) = _
  rw [Filter.apply, List.filter_filter, List.filter_filter]
  simp only [Bool.and_comm]

/-- A test case that fits is found by the status exactly when its cell holds the word for it. -/
theorem isSelected_iff {c : TestCase} (h : f.fits c = true) :
    isSelected f rows c = true ↔
      ∀ status ∈ f.status, (findRow c.id rows).map Row.status = some (.text status.name) := by
  have hstatus : f.statusFits c = true := by
    rw [Filter.fits, Bool.and_eq_true, Bool.and_eq_true] at h
    exact h.1.1
  rw [Filter.statusFits] at hstatus
  rw [isSelected, isPlain]
  cases hf : f.status with
  | none => simp
  | some status =>
    obtain rfl : status = c.status := by simpa [hf] using hstatus
    cases findRow c.id rows <;> simp

theorem result_list (now : Instant) (db : Database) :
    ((gateway .never now).list f db).result = listCases f db.rows := rfl

/-- The rows selected by a filter's status give the filtered table exactly when the answer holds
only test cases whose status cell is the status word itself. -/
theorem list_eq_apply_iff {now later : Instant} {db : Database} (hkeys : HasUniqueIds db.rows)
    (hall : ((gateway .never now).list .all db).result = .ok all) :
    ((gateway .never later).list f db).result = .ok (f.apply all) ↔
      ∀ status ∈ f.status, ∀ c ∈ f.apply all,
        (findRow c.id db.rows).map Row.status = some (.text status.name) := by
  rw [result_list] at hall
  have hnodup := nodup_of_casesOf hkeys.inOrder (casesOf_of_listCases_all hall)
  rw [result_list, listCases_eq_ok hkeys hall, Except.ok.injEq, Filter.apply,
    Filter.cut_filter_eq_cut_iff (hnodup.filter _)]
  constructor
  · intro h status hstatus c hc
    exact (isSelected_iff (Filter.fits_of_mem_apply hc).2).mp (h c hc) status hstatus
  · intro h c hc
    exact (isSelected_iff (Filter.fits_of_mem_apply hc).2).mpr fun status hs => h status hs c hc

theorem listCases_of_ordered (h : (selected f rows).Pairwise fun a b => a.id.le b.id) :
    listCases f rows = f.apply <$> casesOf (selected f rows) := by
  rw [listCases, inOrder, List.mergeSort_of_pairwise h]

/-- Two active test cases, the first with blanks around its status. -/
def looseStatusTable : Database where
  rows := [
    ⟨.text "t1", .text "Login", .text " active ", .null, .text "[]", .null⟩,
    ⟨.text "t2", .text "Logout", .text "active", .null, .text "[]", .null⟩]
  locked := false

def looseStatusCases : List TestCase :=
  [⟨"t1", "Login", .active, none, [], none⟩, ⟨"t2", "Logout", .active, none, [], none⟩]

theorem list_all_looseStatusTable (now : Instant) :
    ((gateway .never now).list .all looseStatusTable).result = .ok looseStatusCases := by
  rw [result_list, listCases_of_ordered (by decide +kernel)]
  decide +kernel

/-- A status with blanks does no harm where the title leaves its test case out. -/
theorem list_by_title_of_looseStatusTable :
    ((gateway .never (.startOfYear 2024)).list ⟨some .active, none, some "OUT", none⟩
      looseStatusTable).result =
        .ok (Filter.apply ⟨some .active, none, some "OUT", none⟩ looseStatusCases) :=
  (list_eq_apply_iff (by decide +kernel) (list_all_looseStatusTable (.startOfYear 2024))).mpr
    (by decide +kernel)

/-- A status with blanks is read as that status, but is not found by it. -/
theorem list_eq_apply_not_always : ¬∀ (now later : Instant) (db : Database) (all : List TestCase)
    (f : Filter), HasUniqueIds db.rows → ((gateway .never now).list .all db).result = .ok all →
      ((gateway .never later).list f db).result = .ok (f.apply all) := by
  intro h
  have hlist := h (.startOfYear 2024) (.startOfYear 2024) looseStatusTable looseStatusCases
    ⟨some .active, none, none, none⟩ (by decide +kernel) (list_all_looseStatusTable _)
  rw [result_list, listCases_of_ordered (by decide +kernel)] at hlist
  exact absurd hlist (by decide +kernel)

end CaseRouting.Table
