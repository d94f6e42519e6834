import CaseRouting.Proofs.Gateway.Catalogue
import CaseRouting.Proofs.Table.Codec
import CaseRouting.Proofs.Table.Listing

/-!
# The table as a catalogue

As long as every row was written for a test case whose time can be stored, the table answers as the
catalogue of these test cases does, and every operation keeps it so.
-/

namespace CaseRouting.Table

variable {c d : TestCase} {cs : List TestCase} {m : Catalogue} {id : String} {now : Instant}
  {db : Database}

def store (interruption : Interruption) (now : Instant) : Store Database where
  toGateway := gateway interruption now
  insert c := started interruption (insert c)

theorem update_map_ofTestCase (d : TestCase) (cs : List TestCase) :
    update d (cs.map Row.ofTestCase) = (Catalogue.replace d cs).map Row.ofTestCase := by
  unfold update Catalogue.replace
  rw [List.map_map, List.map_map]
  apply List.map_congr_left
  intro e _
  have hid : (Row.ofTestCase e).id = .text d.id ↔ e.id = d.id := by simp [Row.ofTestCase]
  by_cases he : e.id = d.id <;> simp [hid, he]

/-- The rows of a catalogue's test cases are ordered as the catalogue is. -/
theorem inOrder_map_ofTestCase (h : Catalogue.Lists m cs) :
    inOrder (cs.map Row.ofTestCase) = m.inOrder.map Row.ofTestCase := by
  let le (a b : TestCase) : Bool := decide (a.id ≤ b.id)
  have hsort : (cs.mergeSort le).map Row.ofTestCase = inOrder (cs.map Row.ofTestCase) :=
    List.map_mergeSort fun _ _ _ _ => rfl
  have htrans (a b c : TestCase) (hab : le a b) (hbc : le b c) : le a c := by
    simp only [le, decide_eq_true_eq] at *
    exact hab.trans hbc
  have htotal (a b : TestCase) : le a b || le b a := by
    simpa [le] using le_total a.id b.id
  have hlists : Catalogue.Lists m (cs.mergeSort le) := h.perm (List.mergeSort_perm _ _).symm
  rw [← hsort, hlists.eq_inOrder]
  refine (List.pairwise_mergeSort htrans htotal cs).imp ?_
  intro a b hab
  exact Catalogue.idLe_iff.mpr (by simpa [le] using hab)

theorem findRow_of_mem_inOrder (h : Catalogue.Lists m cs) (hc : c ∈ m.inOrder) :
    findRow c.id (cs.map Row.ofTestCase) = some (Row.ofTestCase c) := by
  rw [findRow_map_ofTestCase, h.find?_eq_lookup, h.inOrder.lookup_eq_some_iff.mpr ⟨hc, rfl⟩]
  rfl

theorem findCase_map_ofTestCase (h : Catalogue.Lists m cs) (htimes : ∀ c ∈ cs, c.HasStorableTime)
    (id : String) : findCase id (cs.map Row.ofTestCase) = m.find id := by
  unfold findCase Catalogue.find
  rw [findRow_map_ofTestCase, h.find?_eq_lookup]
  cases hlookup : m.lookup id with
  | none => rfl
  | some c =>
    have hc := (h.lookup_eq_some_iff.mp hlookup).1
    exact Row.toTestCase_ofTestCase_eq_ok_iff.mpr ⟨htimes c hc, rfl⟩

theorem listCases_all_map_ofTestCase (h : Catalogue.Lists m cs)
    (htimes : ∀ c ∈ cs, c.HasStorableTime) :
    listCases .all (cs.map Row.ofTestCase) = .ok m.inOrder := by
  have hselected : selected .all (cs.map Row.ofTestCase) = cs.map Row.ofTestCase := rfl
  have htimes' : ∀ c ∈ m.inOrder, c.HasStorableTime := by
    intro c hc
    have hlookup := h.inOrder.lookup_eq_some_iff.mpr ⟨hc, rfl⟩
    exact htimes c (h.lookup_eq_some_iff.mp hlookup).1
  unfold listCases
  rw [hselected, inOrder_map_ofTestCase h, casesOf_map_ofTestCase htimes']
  exact congrArg Except.ok (Filter.apply_all _)

/-- The rows that a filter's status selects are enough, as every status cell holds the word itself.
-/
theorem listCases_map_ofTestCase (h : Catalogue.Lists m cs) (htimes : ∀ c ∈ cs, c.HasStorableTime)
    (f : Filter) : listCases f (cs.map Row.ofTestCase) = .ok (f.apply m.inOrder) := by
  have hkeys := hasUniqueIds_map_ofTestCase h.nodup
  have hselected : (m.inOrder.filter f.fits).filter (isSelected f (cs.map Row.ofTestCase)) =
      m.inOrder.filter f.fits := by
    rw [List.filter_eq_self]
    intro c hc
    obtain ⟨hc, hfits⟩ := List.mem_filter.mp hc
    rw [isSelected_iff hfits, findRow_of_mem_inOrder h hc]
    intro status hstatus
    rw [Filter.fits, Bool.and_eq_true, Bool.and_eq_true, Filter.statusFits,
      Option.mem_def.mp hstatus] at hfits
    have heq : status = c.status := by simpa using hfits.1.1
    rw [heq]
    rfl
  rw [listCases_eq_ok hkeys (listCases_all_map_ofTestCase h htimes), hselected, Filter.apply]

theorem insert_of_found {rows : List Row} (h : (findRow c.id rows).isSome = true) :
    insert c ⟨rows, false⟩ =
      ⟨.error (.conflict c.id "UNIQUE constraint failed: test_cases.id"), ⟨rows, false⟩, []⟩ := by
  simp [insert, h]

theorem insert_of_not_found {rows : List Row} (h : ¬(findRow c.id rows).isSome = true) :
    insert c ⟨rows, false⟩ = ⟨.ok (), ⟨rows ++ [Row.ofTestCase c], false⟩, []⟩ := by
  simp [insert, h]

theorem runCommand_of_ok {rows : List Row} {command : Command}
    (h : findCase id rows >>= command.run now = .ok d) :
    runCommand .never now command id ⟨rows, false⟩ = ⟨.ok d, ⟨update d rows, false⟩, []⟩ := by
  unfold runCommand started
  rw [if_neg (by decide), Action.get_bind, Action.ofExcept_bind_ofExcept_bind, h,
    Action.ofExcept_ok_bind]
  rfl

theorem runCommand_of_error {rows : List Row} {command : Command} {e : Fault}
    (h : findCase id rows >>= command.run now = .error e) :
    runCommand .never now command id ⟨rows, false⟩ = ⟨.error e, ⟨rows, false⟩, []⟩ := by
  unfold runCommand started
  rw [if_neg (by decide), Action.get_bind, Action.ofExcept_bind_ofExcept_bind, h,
    Action.ofExcept_error_bind]

/-- A database that takes writes and holds the test cases of a catalogue, as they are written. -/
def Holds (db : Database) (m : Catalogue) : Prop :=
  ∃ cs, db = ⟨cs.map Row.ofTestCase, false⟩ ∧ Catalogue.Lists m cs ∧ ∀ c ∈ cs, c.HasStorableTime

theorem holds_empty : Holds ⟨[], false⟩ ∅ :=
  ⟨[], rfl, Catalogue.lists_empty, by simp⟩

theorem agree_get (now : Instant) (id : String) :
    Agree Holds ((gateway .never now).get id) ((Catalogue.gateway now).get id) := by
  rintro db m ⟨cs, rfl, h, htimes⟩
  exact ⟨findCase_map_ofTestCase h htimes id, cs, rfl, h, htimes⟩

theorem agree_list (now : Instant) (f : Filter) :
    Agree Holds ((gateway .never now).list f) ((Catalogue.gateway now).list f) := by
  rintro db m ⟨cs, rfl, h, htimes⟩
  exact ⟨listCases_map_ofTestCase h htimes f, cs, rfl, h, htimes⟩

theorem Holds.append (hdb : Holds db m) (hnew : c.id ∉ m) (hc : c.HasStorableTime) :
    Holds ⟨db.rows ++ [Row.ofTestCase c], false⟩ (m.insert c.id c) := by
  obtain ⟨cs, rfl, h, htimes⟩ := hdb
  refine ⟨cs ++ [c], ?_, h.append hnew, ?_⟩
  · rw [List.map_append, List.map_singleton]
  · intro e he
    rcases List.mem_append.mp he with he | he
    · exact htimes e he
    · rw [List.mem_singleton.mp he]
      exact hc

theorem Holds.update (hdb : Holds db m) (hold : d.id ∈ m) (hd : d.HasStorableTime) :
    Holds ⟨update d db.rows, false⟩ (m.insert d.id d) := by
  obtain ⟨cs, rfl, h, htimes⟩ := hdb
  refine ⟨Catalogue.replace d cs, ?_, h.replace hold, ?_⟩
  · rw [update_map_ofTestCase]
  · intro e he
    rcases (Catalogue.mem_replace_iff (h.mem_iff.mp hold)).mp he with rfl | ⟨he, _⟩
    · exact hd
    · exact htimes e he

theorem agree_insert (hc : c.HasStorableTime) : Agree Holds (insert c) (Catalogue.add c) := by
  intro db m hdb
  have hrows := hdb
  obtain ⟨cs, rfl, h, _⟩ := hrows
  have hfound : (findRow c.id (cs.map Row.ofTestCase)).isSome = true ↔ c.id ∈ m := by
    rw [findRow_map_ofTestCase, h.find?_eq_lookup, Option.isSome_map, Finmap.lookup_isSome]
  by_cases hid : c.id ∈ m
  · rw [insert_of_found (hfound.mpr hid), Catalogue.add_of_mem hid]
    exact ⟨rfl, hdb⟩
  · rw [insert_of_not_found (mt hfound.mp hid), Catalogue.add_of_not_mem hid]
    exact ⟨rfl, hdb.append hid hc⟩

/-- A command that is not refused replaces one test case, and its time is that of the call. -/
theorem agree_command (hnow : now.HasFourDigitYear) (command : Command) (id : String) :
    Agree Holds ((gateway .never now).command command id)
      ((Catalogue.gateway now).command command id) := by
  intro db m hdb
  have hrows := hdb
  obtain ⟨cs, rfl, h, htimes⟩ := hrows
  have hfind := findCase_map_ofTestCase h htimes id
  change (runCommand .never now command id _).result = _ ∧ Holds (runCommand _ _ _ _ _).state _
  cases hchange : m.find id >>= command.run now with
  | error e =>
    rw [runCommand_of_error (hfind ▸ hchange), Catalogue.command_of_error hchange]
    exact ⟨rfl, hdb⟩
  | ok d =>
    rw [runCommand_of_ok (hfind ▸ hchange), Catalogue.command_of_ok hchange]
    obtain ⟨c, _, hrun, rfl, hold⟩ := h.exists_changed hchange
    exact ⟨rfl, hdb.update hold (Command.hasStorableTime_of_run hnow hrun)⟩

theorem agree_answer (hnow : now.HasFourDigitYear) (call : Call) :
    Agree Holds ((gateway .never now).answer call) ((Catalogue.gateway now).answer call) := by
  cases call with
  | command command id => exact (agree_command hnow command id).bind_pure _
  | get id => exact (agree_get now id).bind_pure _
  | list filter => exact (agree_list now filter).bind_pure _

theorem agree_reply (hnow : now.HasFourDigitYear) {operation : Operation}
    (htime : operation.HasStorableTime) :
    Agree Holds ((store .never now).reply operation) ((Catalogue.store now).reply operation) := by
  cases operation with
  | insert c => exact (agree_insert htime).bind_pure _
  | call call => exact (agree_answer hnow call).bind_pure _

/-- An empty table answers every run as an empty catalogue does, for a clock and for inserted test
cases whose times can be stored. -/
theorem replies_of_empty {run : List (Instant × Operation)}
    (hclock : ∀ step ∈ run, step.1.HasFourDigitYear)
    (htimes : ∀ step ∈ run, step.2.HasStorableTime) :
    Store.replies (store .never) ⟨[], false⟩ run = Store.replies Catalogue.store ∅ run := by
  apply results_trail_eq ?_ holds_empty
  intro step hstep
  exact agree_reply (hclock step hstep) (htimes step hstep)

/-- Insertions against the order of the ids, one of them refused, and calls that succeed and fail. -/
def mixedRun : List (Instant × Operation) :=
  let time : Instant := .startOfYear 9999
  [(time, .insert ⟨"t2", " Logout ", .active, some "", [";", "\"a\" "], some (.startOfYear 0)⟩),
    (time, .insert (.draft "t1" "Login")),
    (time, .insert (.draft "t2" "Again")),
    (time, .call (.command .activate "t1")),
    (time, .call (.command (.update ⟨some " ", none, none⟩) "t2")),
    (time, .call (.get "t3")),
    (time, .call (.list ⟨some .active, none, none, some 2⟩))]

theorem replies_of_empty_mixedRun : mixedRun.length = 7 ∧
    Store.replies (store .never) ⟨[], false⟩ mixedRun =
      Store.replies Catalogue.store ∅ mixedRun :=
  ⟨rfl, replies_of_empty (by decide +kernel) (by decide +kernel)⟩

end CaseRouting.Table
