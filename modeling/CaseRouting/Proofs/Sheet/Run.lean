import CaseRouting.Proofs.Gateway.Run
import CaseRouting.Proofs.Sheet.Effect

/-!
# Sheets along a run

The first sheet that a run writes decides: if all times in it can be stored, every sheet after it is
read, and else none is.
-/

namespace CaseRouting.Sheet

open Files (MemoryFile memory)
open Text (bytesOf)

variable {file id : String} {now : Instant} {command : Command} {d : TestCase}
  {cs ds : List TestCase} {s : MemoryFile} {step : Step} {run : List Step}

/-- The test cases that a call writes to a sheet with these. -/
def written? (step : Step) (cs : List TestCase) : Option (List TestCase) :=
  match step.call with
  | .command command id =>
    match changedBy step.now command id cs with
    | .ok (_, ds) => some ds
    | .error _ => none
  | _ => none

theorem written?_eq_some_iff :
    written? step cs = some ds ↔
      ∃ command id d, step.call = .command command id ∧
        changedBy step.now command id cs = .ok (d, ds) := by
  rcases step with ⟨now, ⟨command, id⟩ | _ | _⟩
  · rw [written?]
    cases hchange : changedBy now command id cs with
    | error e => simp [hchange]
    | ok changed => simp [hchange, Prod.ext_iff]
  · simp [written?]
  · simp [written?]

theorem keepsState_get (id : String) : ((gateway memory file now).get id).KeepsState :=
  (keepsState_load file).bind fun _ => Action.keepsState_ofExcept _

theorem keepsState_list (filter : Filter) : ((gateway memory file now).list filter).KeepsState :=
  (keepsState_load file).bind fun _ => Action.keepsState_pure _

theorem state_answer_of_written?_eq_none (hload : (load memory file s).result = .ok cs)
    (h : written? step cs = none) :
    ((gateway memory file step.now).answer step.call s).state = s := by
  rcases step with ⟨now, call⟩
  cases call with
  | command command id =>
    rw [Gateway.answer, Action.state_bind_pure]
    cases hrun : (runCommand memory file now command id s).result with
    | error e => exact failsCleanly_runCommand s e hrun
    | ok d =>
      obtain ⟨_, cs', ds, hload', hchange⟩ := result_runCommand_eq_ok_iff.mp hrun
      obtain rfl : cs = cs' := Except.ok.inj (hload.symm.trans hload')
      have hwritten : written? ⟨now, .command command id⟩ cs = some ds :=
        written?_eq_some_iff.mpr ⟨command, id, d, rfl, hchange⟩
      exact absurd (h.symm.trans hwritten) (by simp)
  | get id =>
    rw [Gateway.answer, Action.state_bind_pure]
    exact keepsState_get id s
  | list filter =>
    rw [Gateway.answer, Action.state_bind_pure]
    exact keepsState_list filter s

theorem state_answer_of_written?_eq_some (hrefusal : s.refusal = none)
    (hload : (load memory file s).result = .ok cs) (h : written? step cs = some ds) :
    ((gateway memory file step.now).answer step.call s).state =
      { s with content := some (encode ds), writes := s.writes + 1 } := by
  obtain ⟨command, id, d, hcall, hchange⟩ := written?_eq_some_iff.mp h
  rw [hcall, Gateway.answer, Action.state_bind_pure]
  exact state_runCommand_of_ok hrefusal hload hchange

theorem hasStorableTime_of_written? (hnow : step.now.HasFourDigitYear)
    (hcs : ∀ c ∈ cs, c.HasStorableTime) (h : written? step cs = some ds) :
    ∀ d ∈ ds, d.HasStorableTime := by
  obtain ⟨command, id, d, _, hchange⟩ := written?_eq_some_iff.mp h
  obtain ⟨_, before, c, after, rfl, _, _, hrun, rfl⟩ := changedBy_eq_ok_iff.mp hchange
  intro e he
  rcases List.mem_append.mp he with he | he
  · exact hcs e (by simp [he])
  · rcases List.mem_cons.mp he with rfl | he
    · rw [TestCase.HasStorableTime, Command.updatedAt_of_run hrun]
      rintro t ⟨⟩
      exact hnow
    · exact hcs e (by simp [he])

/-- A sheet that takes writes and is read, with times that can all be stored. -/
def IsSafe (file : String) (s : MemoryFile) : Prop :=
  s.refusal = none ∧ ∃ cs, (load memory file s).result = .ok cs ∧ ∀ c ∈ cs, c.HasStorableTime

theorem IsSafe.isLoaded (h : IsSafe file s) : ∃ cs, (load memory file s).result = .ok cs := by
  obtain ⟨_, cs, hload, _⟩ := h
  exact ⟨cs, hload⟩

theorem isSafe_encode {writes : ℕ} (h : ∀ c ∈ cs, c.HasStorableTime) :
    IsSafe file ⟨some (encode cs), none, writes⟩ := by
  refine ⟨rfl, cs.map reread, result_load_encode_eq_ok_iff.mpr ⟨h, rfl⟩, fun d hd => ?_⟩
  obtain ⟨c, hc, rfl⟩ := List.mem_map.mp hd
  exact h c hc

theorem IsSafe.answer (h : IsSafe file s) (hnow : step.now.HasFourDigitYear) :
    IsSafe file ((gateway memory file step.now).answer step.call s).state := by
  obtain ⟨hrefusal, cs, hload, hcs⟩ := h
  cases hwritten : written? step cs with
  | none =>
    rw [state_answer_of_written?_eq_none hload hwritten]
    exact ⟨hrefusal, cs, hload, hcs⟩
  | some ds =>
    rw [state_answer_of_written?_eq_some hrefusal hload hwritten, hrefusal]
    exact isSafe_encode (hasStorableTime_of_written? hnow hcs hwritten)

theorem IsSafe.outcomes (h : IsSafe file s) (hclock : ∀ step ∈ run, step.now.HasFourDigitYear) :
    ∀ o ∈ outcomes (gateway memory file) s run, IsSafe file o.state :=
  outcomes_invariant h fun step hstep _ hs => hs.answer (hclock step hstep)

/-- With a clock whose years have four digits, a sheet is read after every call of a run exactly
when all times in the first sheet that the run writes can be stored. -/
theorem load_along_run_iff (hrefusal : s.refusal = none)
    (hload : (load memory file s).result = .ok cs)
    (hclock : ∀ step ∈ run, step.now.HasFourDigitYear) :
    (∀ o ∈ outcomes (gateway memory file) s run,
        ∃ ds, (load memory file o.state).result = .ok ds) ↔
      ∀ ds ∈ run.findSome? (written? · cs), ∀ d ∈ ds, d.HasStorableTime := by
  induction run with
  | nil => simp [CaseRouting.outcomes]
  | cons step rest ih =>
    obtain ⟨hnow, hrest⟩ := List.forall_mem_cons.mp hclock
    rw [CaseRouting.outcomes, List.forall_mem_cons, List.findSome?_cons]
    cases hwritten : written? step cs with
    | none =>
      rw [state_answer_of_written?_eq_none hload hwritten, ih hrest]
      exact ⟨fun h => h.2, fun h => ⟨⟨cs, hload⟩, h⟩⟩
    | some ds =>
      rw [state_answer_of_written?_eq_some hrefusal hload hwritten, hrefusal]
      constructor
      · rintro ⟨⟨es, hes⟩, _⟩ ds' ⟨⟩
        exact (result_load_encode_eq_ok_iff.mp hes).1
      · intro h
        -- From the first write on, the sheet is safe, and no later call changes that.
        have hsafe : IsSafe file ⟨some (encode ds), none, s.writes + 1⟩ := isSafe_encode (h ds rfl)
        exact ⟨hsafe.isLoaded, fun o ho => (hsafe.outcomes hrest o ho).isLoaded⟩

/-- Two rows with one id, of which the first is changed again and again. -/
def sharedIdRun : List Step := [
  ⟨.startOfYear 2024, .get "t1"⟩,
  ⟨.startOfYear 2025, .command (.update ⟨some " Sign in ", none, none⟩) "t1"⟩,
  ⟨.startOfYear 2026, .command .deactivate "t1"⟩]

theorem load_along_sharedIdRun :
    (outcomes (gateway memory "cases.csv") sharedIdSheet sharedIdRun).length = 3 ∧
      ∀ o ∈ outcomes (gateway memory "cases.csv") sharedIdSheet sharedIdRun,
        ∃ ds, (load memory "cases.csv" o.state).result = .ok ds :=
  ⟨rfl, (load_along_run_iff rfl load_sharedIdSheet (by decide)).mpr (by decide +kernel)⟩

/-- A time that is read in the year zero, but falls before it in universal time. -/
def earlySheet : MemoryFile where
  content := bytesOf
    "id,title,status,updated_at\nt1,A,draft,0000-01-01T00:00:00+23:59\nt2,B,draft,\n"
  refusal := none
  writes := 0

/-- A change of one row rewrites the time of another in a form that cannot be read. -/
theorem load_along_run_not_always : ¬∀ (file : String) (s : MemoryFile) (cs : List TestCase)
    (run : List Step), s.refusal = none → (load memory file s).result = .ok cs →
      (∀ step ∈ run, step.now.HasFourDigitYear) →
        ∀ o ∈ outcomes (gateway memory file) s run,
          ∃ ds, (load memory file o.state).result = .ok ds := by
  intro h
  obtain ⟨cs, hload⟩ : ∃ cs, (load memory "cases.csv" earlySheet).result = .ok cs := by
    have hok : (load memory "cases.csv" earlySheet).result.toBool = true := by decide +kernel
    cases hresult : (load memory "cases.csv" earlySheet).result with
    | error e => simp [hresult, Except.toBool] at hok
    | ok cs => exact ⟨cs, rfl⟩
  obtain ⟨ds, hds⟩ := h "cases.csv" earlySheet cs [⟨.startOfYear 2024, .command .activate "t2"⟩]
    rfl hload (by decide) _ List.mem_cons_self
  have hfailed : (load memory "cases.csv" ((gateway memory "cases.csv" (.startOfYear 2024)).answer
      (.command .activate "t2") earlySheet).state).result.toBool = false := by
    decide +kernel
  rw [hds] at hfailed
  exact absurd hfailed (by simp [Except.toBool])

end CaseRouting.Sheet
