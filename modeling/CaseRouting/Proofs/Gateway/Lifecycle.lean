import CaseRouting.Proofs.Gateway.Status
import CaseRouting.Proofs.Sheet.Access
import CaseRouting.Proofs.Sheet.Run
import CaseRouting.Proofs.Table.Command

/-!
# The life cycle of rows at rest

The rules for statuses are those of single test cases, but they hold of the rows of a table and of a
sheet as well, along every run and however the statuses are spelled there: a row is moved between
draft and active by nothing but a command on its id that succeeds, and is never moved into or out of
deprecation.
-/

namespace CaseRouting

namespace Table

variable {interruption : Interruption} {now : Instant} {command : Command} {id : String}
  {c d : TestCase} {db : Database} {rows rows' : List Row} {row : Row}

/-- What the cells of a row tell, whether or not its other cells can be read. -/
def Row.mark (r : Row) : Mark where
  id := match r.id with
    | .text id => some id
    | _ => none
  status := match r.status with
    | .text s => Status.ofCell? s
    | _ => none

def marks (db : Database) : List Mark := db.rows.map Row.mark

theorem Row.mark_of_toTestCase (h : row.toTestCase = .ok c) : row.mark = c.mark := by
  obtain ⟨s, hs, hstatus⟩ := Row.status_of_toTestCase h
  simp only [Row.mark, TestCase.mark, Row.id_of_toTestCase h, hs, hstatus]

theorem Row.mark_ofTestCase (d : TestCase) : (Row.ofTestCase d).mark = d.mark :=
  congrArg (Mark.mk (some d.id)) (Status.ofCell?_name d.status)

theorem Row.id_of_mark {r : Row} (h : r.mark.id = some id) : r.id = .text id := by
  rcases r with ⟨_ | s | bytes, title, status, priority, labels, updatedAt⟩
  · simp [Row.mark] at h
  · simpa [Row.mark] using h
  · simp [Row.mark] at h

theorem HasUniqueIds.of_map_id (h : HasUniqueIds rows) (hids : rows.map Row.id = rows'.map Row.id) :
    HasUniqueIds rows' := by
  have hiff (l : List Row) :
      HasUniqueIds l ↔ (l.map Row.id).Pairwise fun a b => a = b → a = .null := by
    rw [List.pairwise_map]
    rfl
  rw [hiff] at h ⊢
  rwa [← hids]

/-- A command that succeeds puts a test case into the row of the one it has changed. -/
theorem exists_split_of_runCommand (hkeys : HasUniqueIds db.rows)
    (h : (runCommand interruption now command id db).result = .ok d) :
    ∃ before row after c, db.rows = before ++ row :: after ∧
      (∀ r ∈ before ++ after, r.id ≠ .text id) ∧ row.toTestCase = .ok c ∧ c.id = id ∧
        command.run now c = .ok d ∧ (runCommand interruption now command id db).state.rows =
          before ++ Row.ofTestCase d :: after := by
  obtain ⟨rfl, hlocked, hchange⟩ := result_runCommand_eq_ok_iff.mp h
  obtain ⟨rows, locked⟩ := db
  obtain rfl : locked = false := hlocked
  obtain ⟨c, hcase, hrun⟩ := bind_eq_ok_iff.mp hchange
  obtain ⟨row, hfind, hc⟩ := findCase_eq_ok_iff.mp hcase
  obtain ⟨before, after, rfl, hothers⟩ := exists_split_of_findRow hkeys hfind
  have hrow : row.id = .text id := ((findRow_eq_some_iff hkeys).mp hfind).2
  have hid : c.id = id := Cell.text.inj ((Row.id_of_toTestCase hc).symm.trans hrow)
  obtain rfl : d.id = id := (Command.id_of_run hrun).trans hid
  refine ⟨before, row, after, c, rfl, hothers, hc, hid, hrun, ?_⟩
  rw [runCommand_of_ok hchange, update_append_cons hothers hrow]

/-- A call keeps the ids of all rows, and moves their statuses as it may. -/
theorem moves_answer (hkeys : HasUniqueIds db.rows) (interruption : Interruption) (now : Instant)
    (call : Call) :
    HasUniqueIds ((gateway interruption now).answer call db).state.rows ∧
      Moves call ((gateway interruption now).answer call db).result.isOk (marks db)
        (marks ((gateway interruption now).answer call db).state) := by
  cases hresult : ((gateway interruption now).answer call db).result with
  | error e =>
    rw [failsCleanly_answer interruption now call db e hresult]
    exact ⟨hkeys, .failed call _⟩
  | ok answer =>
    cases call with
    | get id =>
      rw [keepsState_answer rfl]
      exact ⟨hkeys, .got id _⟩
    | list f =>
      rw [keepsState_answer rfl]
      exact ⟨hkeys, .listed f _⟩
    | command command id =>
      obtain ⟨d, hd, _⟩ := Action.result_bind_eq_ok_iff.mp hresult
      obtain ⟨before, row, after, c, hrows, hothers, hc, hid, hrun, hstate⟩ :=
        exists_split_of_runCommand hkeys hd
      have hids : db.rows.map Row.id = (before ++ Row.ofTestCase d :: after).map Row.id := by
        rw [hrows, List.map_append, List.map_cons, Row.id_of_toTestCase hc,
          ← Command.id_of_run hrun, List.map_append, List.map_cons]
        rfl
      have hfirst : ∀ m ∈ before.map Row.mark, m.id ≠ some id := by
        intro m hm hmid
        obtain ⟨r, hr, rfl⟩ := List.mem_map.mp hm
        exact hothers r (List.mem_append_left _ hr) (Row.id_of_mark hmid)
      have hmoves : Moves (.command command id) true
          (before.map Row.mark ++ c.mark :: after.map Row.mark)
          (before.map Row.mark ++ d.mark :: after.map Row.mark) :=
        .of_run hid hrun hfirst
      rw [Gateway.answer, Action.state_bind_pure]
      change HasUniqueIds (runCommand _ _ _ _ _).state.rows ∧
        Moves _ _ _ ((runCommand _ _ _ _ _).state.rows.map Row.mark)
      rw [hstate, marks, hrows, List.map_append, List.map_append, List.map_cons, List.map_cons,
        Row.mark_of_toTestCase hc, Row.mark_ofTestCase]
      exact ⟨hkeys.of_map_id hids, hmoves⟩

end Table

namespace Files

variable {σ : Type}

/-- A storage of a file whose content is what was written to it last. -/
structure Storage.Stores (storage : Storage σ) (file : String) (content : σ → Option Bytes) : Prop
    extends storage.KeepsContent file content where
  result_read_eq_ok_iff : ∀ s bytes,
    (storage.read file s).result = .ok bytes ↔ content s = some bytes
  content_write : ∀ bytes s, (storage.write file bytes s).result = .ok () →
    content (storage.write file bytes s).state = some bytes

theorem memory_stores (file : String) : memory.Stores file MemoryFile.content where
  toKeepsContent := memory_keepsContent file
  result_read_eq_ok_iff := by
    rintro ⟨_ | content, refusal, writes⟩ bytes <;> simp [memory]
  content_write := by
    rintro bytes ⟨content, _ | message, writes⟩ h
    · rfl
    · exact absurd h (by simp [memory])

end Files

namespace Sheet

open Files (Storage MemoryFile memory)

variable {σ : Type} {storage : Storage σ} {file id : String} {content : σ → Option Bytes}
  {now : Instant} {command : Command} {c d : TestCase} {cs : List TestCase} {s s' : σ}

def marks (storage : Storage σ) (file : String) (s : σ) : Option (List Mark) :=
  match (load storage file s).result with
  | .ok cs => some (cs.map TestCase.mark)
  | .error _ => none

theorem mem_marks_iff {ms : List Mark} : ms ∈ marks storage file s ↔
    ∃ cs, (load storage file s).result = .ok cs ∧ cs.map TestCase.mark = ms := by
  unfold marks
  cases (load storage file s).result <;> simp

theorem result_load_iff_content (h : storage.Stores file content) :
    (load storage file s).result = .ok cs ↔ ∃ bytes, content s = some bytes ∧
      decode bytes = .ok cs := by
  unfold load
  simp only [Action.result_bind_eq_ok_iff, h.result_read_eq_ok_iff, Action.result_ofExcept,
    Action.result_log, Action.result_pure, Except.ok.injEq]
  constructor
  · rintro ⟨bytes, hbytes, cs', hdecode, _, _, rfl⟩
    exact ⟨bytes, hbytes, hdecode⟩
  · rintro ⟨bytes, hbytes, hdecode⟩
    exact ⟨bytes, hbytes, cs, hdecode, (), trivial, rfl⟩

theorem mem_marks_of_content_eq (h : storage.Stores file content) (hsame : content s' = content s)
    {ms : List Mark} (hms : ms ∈ marks storage file s') : ms ∈ marks storage file s := by
  rw [mem_marks_iff] at hms ⊢
  obtain ⟨cs, hload, hcs⟩ := hms
  rw [result_load_iff_content h, hsame, ← result_load_iff_content h] at hload
  exact ⟨cs, hload, hcs⟩

theorem mark_reread (hid : Text.IsTrimmed d.id) : (reread d).mark = d.mark :=
  congrArg (fun id => Mark.mk (some id) (some d.status)) hid

/-- A command that succeeds has read the sheet, and written it with one test case changed. -/
theorem exists_written_of_runCommand (h : storage.Stores file content)
    (hresult : (runCommand storage file now command id s).result = .ok d) :
    ∃ before c after, (load storage file s).result = .ok (before ++ c :: after) ∧
      (∀ e ∈ before, e.id ≠ id) ∧ c.id = id ∧ command.run now c = .ok d ∧
        content (runCommand storage file now command id s).state =
          some (encode (before ++ d :: after)) := by
  cases hlabels : checkLabels command with
  | error e =>
    rw [runCommand_of_refused hlabels] at hresult
    exact absurd hresult (by simp)
  | ok done =>
    rw [runCommand_of_accepted hlabels] at hresult ⊢
    obtain ⟨cs, hload, hwrite⟩ := Action.result_bind_eq_ok_iff.mp hresult
    rw [Action.state_bind_of_ok hload]
    cases hchange : changeFirst id (command.run now) cs with
    | error e =>
      rw [hchange] at hwrite
      exact absurd hwrite (by simp [writeBack])
    | ok changed =>
      obtain ⟨d', ds⟩ := changed
      rw [hchange] at hwrite
      obtain ⟨_, hsave, hd⟩ := Action.result_bind_eq_ok_iff.mp hwrite
      obtain rfl : d' = d := Except.ok.inj hd
      obtain ⟨before, c, after, rfl, hbefore, hc, hrun, rfl⟩ := changeFirst_eq_ok_iff.mp hchange
      refine ⟨before, c, after, hload, hbefore, hc, hrun, ?_⟩
      rw [writeBack, Action.state_bind_pure]
      exact h.content_write _ _ hsave

/-- A command that succeeds has moved one status, if the sheet that it leaves can be read. -/
theorem moves_runCommand (h : storage.Stores file content)
    (hresult : (runCommand storage file now command id s).result = .ok d) {after : List Mark}
    (hafter : after ∈ marks storage file (runCommand storage file now command id s).state) :
    ∃ before ∈ marks storage file s, Moves (.command command id) true before after := by
  obtain ⟨cs, c, ds, hload, hfirst, hc, hrun, hwritten⟩ := exists_written_of_runCommand h hresult
  obtain ⟨bytes, _, hdecode⟩ := (result_load_iff_content h).mp hload
  have hfit := isFit_of_decode hdecode
  have hd : Text.IsTrimmed d.id := by
    rw [Command.id_of_run hrun]
    exact (hfit c (by simp)).id
  obtain ⟨es, hreload, rfl⟩ := mem_marks_iff.mp hafter
  obtain ⟨bytes', hbytes', hdecode'⟩ := (result_load_iff_content h).mp hreload
  obtain rfl := Option.some.inj (hwritten.symm.trans hbytes')
  obtain ⟨_, rfl⟩ := decode_encode_eq_ok_iff.mp hdecode'
  have hes : (cs ++ d :: ds).map reread = cs ++ reread d :: ds := by
    rw [List.map_append, List.map_cons, map_reread_of_isFit fun e he => hfit e (by simp [he]),
      map_reread_of_isFit fun e he => hfit e (by simp [he])]
  have hbefore : ∀ m ∈ cs.map TestCase.mark, m.id ≠ some id := by
    intro m hm hmid
    obtain ⟨e, he, rfl⟩ := List.mem_map.mp hm
    exact hfirst e he (Option.some.inj hmid)
  refine ⟨(cs ++ c :: ds).map TestCase.mark, mem_marks_iff.mpr ⟨_, hload, rfl⟩, ?_⟩
  rw [hes, List.map_append, List.map_append, List.map_cons, List.map_cons, mark_reread hd]
  exact .of_run hc hrun hbefore

/-- Whatever a call leaves in the file, as far as it can be read, the call has moved statuses as it
may. -/
theorem moves_answer (h : storage.Stores file content) (now : Instant) (call : Call) (s : σ)
    {after : List Mark}
    (hafter : after ∈ marks storage file ((gateway storage file now).answer call s).state) :
    ∃ before ∈ marks storage file s,
      Moves call ((gateway storage file now).answer call s).result.isOk before after := by
  cases hresult : ((gateway storage file now).answer call s).result with
  | error e =>
    have hsame := content_answer_of_error h.toKeepsContent hresult
    exact ⟨after, mem_marks_of_content_eq h hsame hafter, .failed call after⟩
  | ok answer =>
    cases call with
    | get id =>
      have hbefore := mem_marks_of_content_eq h (content_answer_get h.toKeepsContent) hafter
      exact ⟨after, hbefore, .got id after⟩
    | list f =>
      have hbefore := mem_marks_of_content_eq h (content_answer_list h.toKeepsContent) hafter
      exact ⟨after, hbefore, .listed f after⟩
    | command command id =>
      obtain ⟨d, hd, _⟩ := Action.result_bind_eq_ok_iff.mp hresult
      rw [Gateway.answer, Action.state_bind_pure] at hafter
      exact moves_runCommand h hd hafter

end Sheet

open Files (Storage MemoryFile memory)

/-- Along every run on a table, and on a sheet while it can be read, statuses move between draft and
active by successful activations and deactivations of their rows alone, and the deprecated rows stay
those of the beginning. -/
theorem statuses_move_along_run {σ : Type} {db : Table.Database} {storage : Storage σ}
    {file : String} {content : σ → Option Bytes} (hkeys : Table.HasUniqueIds db.rows)
    (hstorage : storage.Stores file content) (s : σ)
    (tableRun : List (Table.Interruption × Step)) (sheetRun : List Step) :
    MovesAlong (fun step => (Table.gateway step.1 step.2.now).answer step.2.call)
        (fun step => step.2.call) (fun db => some (Table.marks db)) db tableRun ∧
      MovesAlong (fun step => (Sheet.gateway storage file step.now).answer step.call) Step.call
        (Sheet.marks storage file) s sheetRun := by
  constructor
  · apply movesAlong_of_step (P := fun db => Table.HasUniqueIds db.rows) hkeys
    · intro step db hdb
      exact (Table.moves_answer hdb step.1 step.2.now step.2.call).1
    · rintro step db hdb after ⟨⟩
      exact ⟨_, rfl, (Table.moves_answer hdb step.1 step.2.now step.2.call).2⟩
  · apply movesAlong_of_step (P := fun _ => True) trivial fun _ _ _ => trivial
    intro step s _ after hafter
    exact Sheet.moves_answer hstorage step.now step.call s hafter

/-- Commands on a row in a loose spelling, one of them given up, and one on a row that cannot be
read. -/
def damagedTableRun : List (Table.Interruption × Step) :=
  let time : Instant := .startOfYear 2024
  [(.never, ⟨time, .command .deactivate "t2"⟩),
    (.never, ⟨time, .command .activate "t2"⟩),
    (.never, ⟨time, .command (.update ⟨some "Sign out", none, none⟩) "t2"⟩),
    (.beforeCommit, ⟨time, .command .deactivate "t2"⟩),
    (.never, ⟨time, .command .activate "t1"⟩)]

theorem statuses_move_along_damagedTableRun :
    Table.HasUniqueIds Table.damagedTable.rows ∧
      memory.Stores "cases.csv" MemoryFile.content ∧
      MovesAlong (fun step => (Table.gateway step.1 step.2.now).answer step.2.call)
        (fun step => step.2.call) (fun db => some (Table.marks db)) Table.damagedTable
        damagedTableRun ∧
      MovesAlong (fun step => (Sheet.gateway memory "cases.csv" step.now).answer step.call)
        Step.call (Sheet.marks memory "cases.csv") Sheet.sharedIdSheet Sheet.sharedIdRun := by
  have hkeys : Table.HasUniqueIds Table.damagedTable.rows := by decide +kernel
  have hstorage := Files.memory_stores "cases.csv"
  exact ⟨hkeys, hstorage, statuses_move_along_run hkeys hstorage Sheet.sharedIdSheet
    damagedTableRun Sheet.sharedIdRun⟩

/-- Of these commands, only the activation on a draft moves a status. -/
example :
    (transitions (fun step => (Table.gateway step.1 step.2.now).answer step.2.call)
        Table.damagedTable damagedTableRun).map (fun t => (Table.marks t.done.state)[1]?) =
      [some ⟨some "t2", some .draft⟩, some ⟨some "t2", some .active⟩,
        some ⟨some "t2", some .active⟩, some ⟨some "t2", some .active⟩,
        some ⟨some "t2", some .active⟩] := by
  decide +kernel

end CaseRouting
