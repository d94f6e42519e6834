import CaseRouting.Proofs.Table.Catalogue

/-!
# Transactions on the table

A command is one transaction: it finds its row, changes the rows, and only then asks whether anybody
still waits for it. Whatever fails on the way, the rows it has changed by then are rolled back. So
an operation that fails, or that is given up in time, leaves no trace in the database.
-/

namespace CaseRouting.Table

variable {α : Type} {interruption : Interruption} {now : Instant} {command : Command}
  {id : String} {d : TestCase} {db : Database}

/-- Does something as a whole: if it fails, everything is put back as it was before. -/
def transaction (x : Action Database α) : Action Database α := fun db =>
  match x db with
  | ⟨.error e, _, events⟩ => ⟨.error e, db, events⟩
  | done => done

theorem failsCleanly_transaction (x : Action Database α) : (transaction x).FailsCleanly := by
  intro db e h
  unfold transaction at h ⊢
  generalize x db = done at h ⊢
  rcases done with ⟨_ | a, db', events⟩
  · rfl
  · exact absurd h (by simp)

/-- Puts the cells of a test case into the row with its id, unless somebody else may write. -/
def updateRow (c : TestCase) : Action Database Unit := do
  let db ← Action.get
  if db.locked then Action.fail (.table .locked)
  else Action.set { db with rows := update c db.rows }

def awaited (interruption : Interruption) : Action Database Unit :=
  if interruption = .beforeCommit then Action.fail cancelled else pure ()

def statements (interruption : Interruption) (now : Instant) (command : Command) (id : String) :
    Action Database TestCase := do
  let db ← Action.get
  let c ← Action.ofExcept (findCase id db.rows)
  let changed ← Action.ofExcept (command.run now c)
  updateRow changed
  awaited interruption
  pure changed

theorem runCommand_eq_transaction : runCommand interruption now command id =
    started interruption (transaction (statements interruption now command id)) := by
  unfold runCommand
  refine congrArg (started interruption) (funext fun db => ?_)
  unfold transaction statements
  rw [Action.get_bind, Action.get_bind, Action.ofExcept_bind_ofExcept_bind,
    Action.ofExcept_bind_ofExcept_bind]
  cases findCase id db.rows >>= command.run now with
  | error e => rfl
  | ok changed =>
    obtain ⟨rows, locked⟩ := db
    cases locked <;> cases interruption <;> rfl

theorem failsCleanly_started {x : Action Database α} (h : x.FailsCleanly) :
    (started interruption x).FailsCleanly := by
  unfold started
  by_cases hstart : interruption = .beforeStart
  · rw [if_pos hstart]
    exact Action.failsCleanly_fail cancelled
  · rw [if_neg hstart]
    exact h

theorem failsCleanly_runCommand : (runCommand interruption now command id).FailsCleanly := by
  rw [runCommand_eq_transaction]
  exact failsCleanly_started (failsCleanly_transaction _)

/-- An insertion is a single statement, which adds its row or fails. -/
theorem failsCleanly_insert (c : TestCase) : (insert c).FailsCleanly := by
  rintro ⟨rows, locked⟩ e h
  cases locked with
  | true => rfl
  | false =>
    by_cases hfound : (findRow c.id rows).isSome = true
    · rw [insert_of_found hfound]
    · rw [insert_of_not_found hfound] at h
      exact absurd h (by simp)

theorem keepsState_started {x : Action Database α} (h : x.KeepsState) :
    (started interruption x).KeepsState := by
  unfold started
  by_cases hstart : interruption = .beforeStart
  · rw [if_pos hstart]
    exact fun _ => rfl
  · rw [if_neg hstart]
    exact h

theorem keepsState_get (interruption : Interruption) (now : Instant) (id : String) :
    ((gateway interruption now).get id).KeepsState :=
  keepsState_started fun _ => rfl

theorem keepsState_list (interruption : Interruption) (now : Instant) (f : Filter) :
    ((gateway interruption now).list f).KeepsState :=
  keepsState_started fun _ => rfl

theorem keepsState_answer {call : Call} (h : call.isQuery = true) :
    ((gateway interruption now).answer call).KeepsState := by
  intro db
  cases call with
  | command command id => exact absurd h (by simp [Call.isQuery])
  | get id => exact (Action.state_bind_pure _).trans (keepsState_get interruption now id db)
  | list f => exact (Action.state_bind_pure _).trans (keepsState_list interruption now f db)

theorem failsCleanly_answer (interruption : Interruption) (now : Instant) (call : Call) :
    ((gateway interruption now).answer call).FailsCleanly := by
  cases call with
  | command command id => exact failsCleanly_runCommand.bind_pure _
  | get id => exact (keepsState_get interruption now id).failsCleanly.bind_pure _
  | list f => exact (keepsState_list interruption now f).failsCleanly.bind_pure _

theorem keepsState_reply {operation : Operation} (h : operation.isQuery = true) :
    ((store interruption now).reply operation).KeepsState := by
  intro db
  cases operation with
  | insert c => exact absurd h (by simp [Operation.isQuery])
  | call call =>
    have hquery : call.isQuery = true := by
      cases call <;> exact h
    exact (Action.state_bind_pure _).trans (keepsState_answer hquery db)

theorem failsCleanly_reply (interruption : Interruption) (now : Instant) (operation : Operation) :
    ((store interruption now).reply operation).FailsCleanly := by
  cases operation with
  | insert c => exact (failsCleanly_started (failsCleanly_insert c)).bind_pure _
  | call call => exact (failsCleanly_answer interruption now call).bind_pure _

/-- The caller gives up before an operation begins, or before the transaction of a command is
committed. An insertion that has begun cannot be stopped. -/
def isAbandoned (interruption : Interruption) : Operation → Bool
  | .call (.command _ _) => interruption != .never
  | _ => interruption == .beforeStart

theorem result_commit_eq_ok_iff {rows : List Row} {done : Unit} :
    (commit interruption rows db).result = .ok done ↔
      interruption ≠ .beforeCommit ∧ db.locked = false := by
  rcases db with ⟨rows', locked⟩
  unfold commit
  rw [Action.get_bind]
  cases locked <;> cases interruption <;> simp

/-- A command succeeds exactly if nobody gives up on it or holds the right to write, and if the test
case is found and allows the change. -/
theorem result_runCommand_eq_ok_iff :
    (runCommand interruption now command id db).result = .ok d ↔
      interruption = .never ∧ db.locked = false ∧
        findCase id db.rows >>= command.run now = .ok d := by
  unfold runCommand started
  by_cases hstart : interruption = .beforeStart
  · rw [if_pos hstart, Action.fail_apply]
    simp [hstart]
  · rw [if_neg hstart, Action.get_bind]
    simp only [Action.result_bind_eq_ok_iff, Action.result_ofExcept, Action.state_ofExcept,
      result_commit_eq_ok_iff, Action.result_pure, Except.ok.injEq, bind_eq_ok_iff]
    constructor
    · rintro ⟨c, hc, d', hrun, _, ⟨hcommit, hlocked⟩, rfl⟩
      refine ⟨?_, hlocked, c, hc, hrun⟩
      cases interruption with
      | never => rfl
      | beforeStart => exact absurd rfl hstart
      | beforeCommit => exact absurd rfl hcommit
    · rintro ⟨rfl, hlocked, c, hc, hrun⟩
      exact ⟨c, hc, d, hrun, (), ⟨by simp, hlocked⟩, rfl⟩

theorem exists_result_reply_eq_error {operation : Operation}
    (h : isAbandoned interruption operation = true) :
    ∃ e, ((store interruption now).reply operation db).result = .error e := by
  have hbefore (hstart : (interruption == .beforeStart) = true) : interruption = .beforeStart :=
    beq_iff_eq.mp hstart
  cases operation with
  | insert c =>
    obtain rfl := hbefore h
    exact ⟨cancelled, rfl⟩
  | call call =>
    cases call with
    | command command id =>
      cases hrun : (runCommand interruption now command id db).result with
      | error e => exact ⟨e, Action.result_bind_of_error (Action.result_bind_of_error hrun)⟩
      | ok d =>
        have hnever := (result_runCommand_eq_ok_iff.mp hrun).1
        exact absurd h (by simp [isAbandoned, hnever])
    | get id =>
      obtain rfl := hbefore h
      exact ⟨cancelled, rfl⟩
    | list f =>
      obtain rfl := hbefore h
      exact ⟨cancelled, rfl⟩

/-- Queries, operations that are given up in time and operations that fail leave every cell of every
row as it was. -/
theorem reply_leaves_no_trace {operation : Operation}
    (h : operation.isQuery = true ∨ isAbandoned interruption operation = true ∨
      ∃ e, ((store interruption now).reply operation db).result = .error e) :
    ((store interruption now).reply operation db).state = db := by
  rcases h with hquery | habandoned | ⟨e, he⟩
  · exact keepsState_reply hquery db
  · obtain ⟨e, he⟩ := exists_result_reply_eq_error habandoned
    exact failsCleanly_reply interruption now operation db e he
  · exact failsCleanly_reply interruption now operation db e he

/-- A test case that can be changed, between one whose labels are bytes and one without an id. -/
def damagedTable : Database where
  rows := [
    ⟨.text "t1", .text "Login", .text "draft", .null, .blob [0x5B, 0xFF], .null⟩,
    ⟨.text "t2", .text "Logout", .text " Draft ", .text "", .text "[ ]", .null⟩,
    ⟨.null, .null, .text "draft", .null, .text "[]", .null⟩]
  locked := false

/-- A query, a command that is given up late, and one whose row cannot be read. -/
theorem damagedTable_is_kept :
    ((store .never (.startOfYear 2024)).reply (.call (.get "t2")) damagedTable).state =
        damagedTable ∧
      ((store .beforeCommit (.startOfYear 2024)).reply (.call (.command .activate "t2"))
        damagedTable).state = damagedTable ∧
      ((store .never (.startOfYear 2024)).reply (.call (.command .activate "t1"))
        damagedTable).state = damagedTable :=
  ⟨reply_leaves_no_trace (.inl rfl), reply_leaves_no_trace (.inr (.inl rfl)),
    reply_leaves_no_trace
      (.inr (.inr ⟨.table (.columnType 4 "labels" "Blob"), by decide +kernel⟩))⟩

end CaseRouting.Table
