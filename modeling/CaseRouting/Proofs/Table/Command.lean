import CaseRouting.Proofs.Table.Transaction

/-!
# What a command leaves in the table

A command that succeeds rewrites the one row whose id cell is the text of its id, and keeps every
cell of all others, whether these can be read or not. The test case it answers is read back as it
is, as long as the time of the command can be stored.
-/

namespace CaseRouting.Table

variable {interruption : Interruption} {now : Instant} {command : Command} {id : String}
  {d : TestCase} {db : Database} {rows before after : List Row} {row : Row}

theorem exists_split_of_findRow (hkeys : HasUniqueIds rows) (h : findRow id rows = some row) :
    ∃ before after, rows = before ++ row :: after ∧ ∀ r ∈ before ++ after, r.id ≠ .text id := by
  have hid : row.id = .text id := ((findRow_eq_some_iff hkeys).mp h).2
  obtain ⟨_, before, after, rfl, hbefore⟩ := List.find?_eq_some_iff_append.mp h
  refine ⟨before, after, rfl, ?_⟩
  intro r hr
  rcases List.mem_append.mp hr with hr | hr
  · simpa using hbefore r hr
  · -- A second row with this id would share it with the row that was found.
    intro he
    have hrest := (List.pairwise_append.mp hkeys).2.1
    have hnull := (List.pairwise_cons.mp hrest).1 r hr (hid.trans he.symm)
    exact absurd (hid.symm.trans hnull) (by simp)

theorem findRow_append_cons (hothers : ∀ r ∈ before ++ after, r.id ≠ .text id)
    (hid : row.id = .text id) : findRow id (before ++ row :: after) = some row := by
  have hnone : before.find? (·.id == .text id) = none :=
    List.find?_eq_none.mpr fun r hr => by simpa using hothers r (List.mem_append_left _ hr)
  unfold findRow
  rw [List.find?_append, hnone, Option.none_or, List.find?_cons_of_pos (by simp [hid])]

theorem update_append_cons (hothers : ∀ r ∈ before ++ after, r.id ≠ .text d.id)
    (hid : row.id = .text d.id) :
    update d (before ++ row :: after) = before ++ Row.ofTestCase d :: after := by
  have hkept (rows : List Row) (h : ∀ r ∈ rows, r.id ≠ .text d.id) :
      rows.map (fun r => if r.id = .text d.id then Row.ofTestCase d else r) = rows := by
    conv_rhs => rw [← List.map_id rows]
    exact List.map_congr_left fun r hr => if_neg (h r hr)
  unfold update
  rw [List.map_append, List.map_cons, if_pos hid,
    hkept before fun r hr => hothers r (List.mem_append_left _ hr),
    hkept after fun r hr => hothers r (List.mem_append_right _ hr)]

theorem findCase_eq_ok_iff {c : TestCase} :
    findCase id rows = .ok c ↔ ∃ row, findRow id rows = some row ∧ row.toTestCase = .ok c := by
  unfold findCase
  cases findRow id rows <;> simp

theorem findCase_append_ofTestCase_cons
    (hothers : ∀ r ∈ before ++ after, r.id ≠ .text d.id) :
    findCase d.id (before ++ Row.ofTestCase d :: after) = .ok d ↔ d.HasStorableTime := by
  rw [findCase_eq_ok_iff, findRow_append_cons hothers rfl]
  simp [Row.toTestCase_ofTestCase_eq_ok_iff]

/-- A command that succeeds answers the change of the test case in the row with its id. The row
keeps its id cell and holds that answer in the others, no other row changes in any cell, and the
answer is what is read next exactly when the time of the command has a year of four digits. -/
theorem command_changes_one_row (hkeys : HasUniqueIds db.rows)
    (h : ((gateway interruption now).command command id db).result = .ok d) :
    ∃ before row after, db.rows = before ++ row :: after ∧ row.id = .text id ∧
      (∀ r ∈ before ++ after, r.id ≠ .text id) ∧
      (∃ c, row.toTestCase = .ok c ∧ command.run now c = .ok d) ∧
      ((gateway interruption now).command command id db).state =
        { db with rows := before ++ {
            id := row.id
            title := .text d.title
            status := .text d.status.name
            priority := .ofOption d.priority
            labels := .text (Json.Value.texts d.labels).compact
            updatedAt := .ofOption (d.updatedAt.map Instant.stored) } :: after } ∧
      ∀ later, ((gateway .never later).get id
          ((gateway interruption now).command command id db).state).result = .ok d ↔
        now.HasFourDigitYear := by
  obtain ⟨rfl, hlocked, hchange⟩ := result_runCommand_eq_ok_iff.mp h
  obtain ⟨rows, locked⟩ := db
  obtain rfl : locked = false := hlocked
  obtain ⟨c, hcase, hrun⟩ := bind_eq_ok_iff.mp hchange
  obtain ⟨row, hfind, hc⟩ := findCase_eq_ok_iff.mp hcase
  obtain ⟨before, after, rfl, hothers⟩ := exists_split_of_findRow hkeys hfind
  have hid : row.id = .text id := ((findRow_eq_some_iff hkeys).mp hfind).2
  obtain rfl : id = d.id := by
    rw [Command.id_of_run hrun]
    exact Cell.text.inj (hid.symm.trans (Row.id_of_toTestCase hc))
  have hstate : ((gateway .never now).command command d.id
      ⟨before ++ row :: after, false⟩).state = ⟨before ++ Row.ofTestCase d :: after, false⟩ := by
    change (runCommand .never now command d.id _).state = _
    rw [runCommand_of_ok hchange, update_append_cons hothers hid]
  refine ⟨before, row, after, rfl, hid, hothers, ⟨c, hc, hrun⟩, ?_, ?_⟩
  · rw [hstate, hid]
    rfl
  · intro later
    rw [hstate]
    change findCase d.id (before ++ Row.ofTestCase d :: after) = .ok d ↔ _
    rw [findCase_append_ofTestCase_cons hothers, Command.hasStorableTime_iff_of_run hrun]

/-- The activation of a test case in a loose spelling, between rows that cannot be read. -/
theorem activation_changes_one_row_of_damagedTable :
    let d : TestCase := ⟨"t2", "Logout", .active, some "", [], some (.startOfYear 2024)⟩
    let done := (gateway .never (.startOfYear 2024)).command .activate "t2" damagedTable
    HasUniqueIds damagedTable.rows ∧ done.result = .ok d ∧
      ∃ before row after, damagedTable.rows = before ++ row :: after ∧ row.id = .text "t2" ∧
        (∀ r ∈ before ++ after, r.id ≠ .text "t2") ∧
        (∃ c, row.toTestCase = .ok c ∧ Command.activate.run (.startOfYear 2024) c = .ok d) ∧
        done.state = { damagedTable with rows := before ++ {
            id := row.id
            title := .text d.title
            status := .text d.status.name
            priority := .ofOption d.priority
            labels := .text (Json.Value.texts d.labels).compact
            updatedAt := .ofOption (d.updatedAt.map Instant.stored) } :: after } ∧
        ∀ later, ((gateway .never later).get "t2" done.state).result = .ok d ↔
          (Instant.startOfYear 2024).HasFourDigitYear := by
  have hkeys : HasUniqueIds damagedTable.rows := by decide +kernel
  have hdone : ((gateway .never (.startOfYear 2024)).command .activate "t2" damagedTable).result =
      .ok ⟨"t2", "Logout", .active, some "", [], some (.startOfYear 2024)⟩ := by
    decide +kernel
  exact ⟨hkeys, hdone, command_changes_one_row hkeys hdone⟩

end CaseRouting.Table
