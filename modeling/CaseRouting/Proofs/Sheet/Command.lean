import CaseRouting.Proofs.Action
import CaseRouting.Proofs.Sheet.Codec
import CaseRouting.Sheet.Gateway

/-!
# Commands on a sheet

A command on a sheet changes the first test case with its id and writes all of them back. What the
sheet holds afterwards is therefore told by the change of one place in a list, and by how a written
sheet is read.
-/

namespace CaseRouting

open Text (IsTrimmed)

/-- The title and the priority that a command sets come back from their cells as they are. -/
def Command.HasFitTexts : Command → Prop
  | .update changes =>
    (∀ t ∈ changes.title, IsTrimmed t) ∧ ∀ p ∈ changes.priority, IsTrimmed p ∧ p ≠ ""
  | _ => True

instance (command : Command) : Decidable command.HasFitTexts :=
  match command with
  | .activate | .deactivate => inferInstanceAs (Decidable True)
  | .update changes =>
    inferInstanceAs (Decidable ((∀ t ∈ changes.title, IsTrimmed t) ∧
      ∀ p ∈ changes.priority, IsTrimmed p ∧ p ≠ ""))

namespace Sheet

open Files (MemoryFile memory)

variable {file id : String} {now : Instant} {command : Command} {c d : TestCase}
  {cs ds : List TestCase} {s : MemoryFile}

theorem changeFirst_eq_ok_iff {change : TestCase → Except Fault TestCase} :
    changeFirst id change cs = .ok (d, ds) ↔
      ∃ before c after, cs = before ++ c :: after ∧ (∀ e ∈ before, e.id ≠ id) ∧ c.id = id ∧
        change c = .ok d ∧ ds = before ++ d :: after := by
  induction cs generalizing ds with
  | nil => simp [changeFirst]
  | cons e rest ih =>
    rw [changeFirst]
    by_cases he : e.id = id
    · simp only [if_pos he, bind_eq_ok_iff, pure_eq_ok, Except.ok.injEq, Prod.mk.injEq]
      constructor
      · rintro ⟨_, hchange, rfl, rfl⟩
        exact ⟨[], e, rest, rfl, by simp, he, hchange, rfl⟩
      · rintro ⟨before, c, after, hcs, hbefore, _, hchange, rfl⟩
        cases before with
        | nil =>
          obtain ⟨rfl, rfl⟩ := List.cons.inj hcs
          exact ⟨d, hchange, rfl, rfl⟩
        | cons b before =>
          obtain ⟨rfl, _⟩ := List.cons.inj hcs
          exact absurd he (hbefore e List.mem_cons_self)
    · simp only [if_neg he, bind_eq_ok_iff, pure_eq_ok, Except.ok.injEq, Prod.mk.injEq,
        Prod.exists]
      constructor
      · rintro ⟨_, tail, htail, rfl, rfl⟩
        obtain ⟨before, c, after, rfl, hbefore, hc, hchange, rfl⟩ := ih.mp htail
        exact ⟨e :: before, c, after, rfl, List.forall_mem_cons.mpr ⟨he, hbefore⟩, hc, hchange, rfl⟩
      · rintro ⟨before, c, after, hcs, hbefore, hc, hchange, rfl⟩
        cases before with
        | nil =>
          obtain ⟨rfl, _⟩ := List.cons.inj hcs
          exact absurd hc he
        | cons b before =>
          obtain ⟨rfl, rfl⟩ := List.cons.inj hcs
          obtain ⟨_, hbefore⟩ := List.forall_mem_cons.mp hbefore
          exact ⟨d, _, ih.mpr ⟨before, c, after, rfl, hbefore, hc, hchange, rfl⟩, rfl, rfl⟩

theorem checkLabels_update_eq_ok_iff {changes : Changes} :
    checkLabels (.update changes) = .ok () ↔
      ∀ l ∈ changes.labels.getD [], labelSeparator ∉ l.toList ∧ IsTrimmed l := by
  simp only [← isUnfitLabel_eq_false_iff]
  rw [checkLabels]
  cases hfind : (changes.labels.getD []).find? isUnfitLabel with
  | none => simpa using hfind
  | some l =>
    have hl := List.find?_some hfind
    have hmem := List.mem_of_find?_eq_some hfind
    simp only [reduceCtorEq, false_iff, not_forall]
    exact ⟨l, hmem, by simp [hl]⟩

/-- The labels of a fit test case are the only texts that the gateway itself keeps fit. -/
theorem isFit_iff_of_run (hc : IsFit c) (hlabels : checkLabels command = .ok ())
    (h : command.run now c = .ok d) : IsFit d ↔ command.HasFitTexts := by
  cases command with
  | activate =>
    rw [(TestCase.activate_eq_ok_iff.mp h).2]
    exact ⟨fun _ => trivial, fun _ => ⟨hc.id, hc.title, hc.priority, hc.labels⟩⟩
  | deactivate =>
    rw [(TestCase.deactivate_eq_ok_iff.mp h).2]
    exact ⟨fun _ => trivial, fun _ => ⟨hc.id, hc.title, hc.priority, hc.labels⟩⟩
  | update changes =>
    obtain ⟨_, hblank, rfl⟩ := TestCase.apply_eq_ok_iff.mp h
    rcases changes with ⟨title, priority, labels⟩
    constructor
    · intro hd
      refine ⟨?_, ?_⟩
      · rintro t rfl
        exact hd.title
      · rintro p rfl
        exact hd.priority p rfl
    · rintro ⟨htitle, hpriority⟩
      refine ⟨hc.id, ?_, ?_, ?_⟩
      · cases title with
        | none => exact hc.title
        | some t => exact htitle t rfl
      · cases priority with
        | none => exact hc.priority
        | some p => exact hpriority
      · cases labels with
        | none => exact hc.labels
        | some ls =>
          intro l hl
          have hl' : Text.isBlankText l = false := by
            simpa using List.any_eq_false.mp hblank l hl
          exact isFitLabel_iff_passes.mpr ⟨checkLabels_update_eq_ok_iff.mp hlabels l hl, hl'⟩

/-- What a command makes of the test cases of a sheet: its answer, and all of them after it. -/
def changedBy (now : Instant) (command : Command) (id : String) (cs : List TestCase) :
    Except Fault (TestCase × List TestCase) := do
  checkLabels command
  changeFirst id (command.run now) cs

theorem changedBy_eq_ok_iff :
    changedBy now command id cs = .ok (d, ds) ↔
      checkLabels command = .ok () ∧ ∃ before c after, cs = before ++ c :: after ∧
        (∀ e ∈ before, e.id ≠ id) ∧ c.id = id ∧ command.run now c = .ok d ∧
          ds = before ++ d :: after := by
  rw [changedBy, bind_eq_ok_iff, ← changeFirst_eq_ok_iff]
  exact ⟨fun ⟨_, hlabels, h⟩ => ⟨hlabels, h⟩, fun ⟨hlabels, h⟩ => ⟨(), hlabels, h⟩⟩

theorem keepsState_load (file : String) : (load memory file).KeepsState := by
  refine Action.KeepsState.bind (fun s => ?_) fun bytes =>
    (Action.keepsState_ofExcept _).bind fun cs =>
      (Action.keepsState_log _).bind fun _ => Action.keepsState_pure cs
  rcases s with ⟨_ | bytes, refusal, writes⟩ <;> rfl

theorem result_load_eq_ok_iff :
    (load memory file s).result = .ok cs ↔ ∃ bytes ∈ s.content, decode bytes = .ok cs := by
  rw [load, Action.result_bind_eq_ok_iff]
  rcases s with ⟨_ | bytes, refusal, writes⟩
  · simp [memory]
  · simp [memory, Action.result_bind_eq_ok_iff]

/-- Only the content of a file tells what is loaded from it. -/
theorem result_load_encode_eq_ok_iff {refusal : Option String} {writes : ℕ} :
    (load memory file ⟨some (encode cs), refusal, writes⟩).result = .ok ds ↔
      (∀ c ∈ cs, c.HasStorableTime) ∧ ds = cs.map reread := by
  rw [result_load_eq_ok_iff, ← decode_encode_eq_ok_iff]
  simp

theorem isFit_of_load (h : (load memory file s).result = .ok cs) : ∀ c ∈ cs, IsFit c := by
  obtain ⟨bytes, _, hdecode⟩ := result_load_eq_ok_iff.mp h
  exact isFit_of_decode hdecode

theorem result_save_eq_ok_iff {done : Unit} :
    (save memory file cs s).result = .ok done ↔ s.refusal = none := by
  rcases s with ⟨content, _ | message, writes⟩ <;> simp [save, memory]

theorem state_save (h : s.refusal = none) :
    (save memory file cs s).state =
      { s with content := some (encode cs), writes := s.writes + 1 } := by
  simp [save, memory, h]

theorem result_runCommand_eq_ok_iff :
    (runCommand memory file now command id s).result = .ok d ↔
      s.refusal = none ∧ ∃ cs ds, (load memory file s).result = .ok cs ∧
        changedBy now command id cs = .ok (d, ds) := by
  simp only [runCommand, changedBy, Action.result_bind_eq_ok_iff, bind_eq_ok_iff,
    Action.result_ofExcept, Action.state_ofExcept, keepsState_load file _, result_save_eq_ok_iff,
    Action.result_pure, Prod.exists]
  constructor
  · rintro ⟨_, hlabels, cs, hload, _, ds, hchange, _, hrefusal, hd⟩
    obtain rfl := Except.ok.inj hd
    exact ⟨hrefusal, cs, ds, hload, (), hlabels, hchange⟩
  · rintro ⟨hrefusal, cs, ds, hload, _, hlabels, hchange⟩
    exact ⟨(), hlabels, cs, hload, d, ds, hchange, (), hrefusal, rfl⟩

theorem state_runCommand_of_ok (hrefusal : s.refusal = none)
    (hload : (load memory file s).result = .ok cs)
    (hchange : changedBy now command id cs = .ok (d, ds)) :
    (runCommand memory file now command id s).state =
      { s with content := some (encode ds), writes := s.writes + 1 } := by
  obtain ⟨_, hlabels, hfirst⟩ := bind_eq_ok_iff.mp hchange
  have hsave : (save memory file ds s).result = .ok () := result_save_eq_ok_iff.mpr hrefusal
  rw [runCommand, Action.state_bind_of_ok hlabels, Action.state_ofExcept,
    Action.state_bind_of_ok hload, keepsState_load file s]
  rw [Action.state_bind_of_ok hfirst, Action.state_ofExcept,
    Action.state_bind_of_ok hsave, Action.state_pure, state_save hrefusal]

theorem failsCleanly_runCommand :
    (runCommand memory file now command id).FailsCleanly := by
  refine (Action.keepsState_ofExcept _).failsCleanly_bind fun _ =>
    (keepsState_load file).failsCleanly_bind fun cs =>
      (Action.keepsState_ofExcept _).failsCleanly_bind fun ⟨d, ds⟩ =>
        Action.FailsCleanly.bind_pure ?_ fun _ => d
  rintro ⟨content, _ | message, writes⟩ e h
  · exact absurd h (by simp [save, memory])
  · rfl

end Sheet

end CaseRouting
