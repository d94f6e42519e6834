import CaseRouting.Proofs.Files.Disk
import CaseRouting.Proofs.Sheet.Access

/-!
# A sheet on a disk

Where reading changes nothing, a call leaves the storage as it was or as one write leaves it, and
then it is a command, which fails if the write does. On a disk a call changes at most the file of
the sheet and its draft, and unless a command succeeds, at most the draft.
-/

namespace CaseRouting.Sheet

open Files (Storage Tree)
open Files.Tree (ChangesAt)
open Table (placeOf)

variable {σ : Type} {storage : Storage σ} {file : String}

theorem state_runCommand (hread : (storage.read file).KeepsState) (now : Instant)
    (command : Command) (id : String) (s : σ) :
    (runCommand storage file now command id s).state = s ∨
      ∃ bytes, (runCommand storage file now command id s).state =
          (storage.write file bytes s).state ∧
        ∀ e, (runCommand storage file now command id s).result = .error e →
          (storage.write file bytes s).result = .error e := by
  have hload : (load storage file s).state = s := state_load.trans (hread s)
  cases hlabels : checkLabels command with
  | error e =>
    rw [runCommand_of_refused hlabels]
    exact .inl rfl
  | ok done =>
    rw [runCommand_of_accepted hlabels]
    rcases Action.bind_cases (load storage file)
        (fun cs => writeBack storage file (changeFirst id (command.run now) cs)) s with
      ⟨e, _, _, hstate⟩ | ⟨cs, _, hresult, hstate⟩
    · exact .inl (hstate.trans hload)
    · rw [hstate, hresult, hload]
      cases changeFirst id (command.run now) cs with
      | error e => exact .inl rfl
      | ok changed =>
        exact .inr ⟨encode changed.2, Action.state_bind_pure _,
          fun e => Action.result_eq_error_of_bind_pure⟩

/-- A call leaves everything as it was, or it is a command and leaves what its write left. -/
theorem state_answer (hread : (storage.read file).KeepsState) (now : Instant) (call : Call)
    (s : σ) :
    ((gateway storage file now).answer call s).state = s ∨
      call.isQuery = false ∧ ∃ bytes, ((gateway storage file now).answer call s).state =
          (storage.write file bytes s).state ∧
        ∀ e, ((gateway storage file now).answer call s).result = .error e →
          (storage.write file bytes s).result = .error e := by
  have hload : (load storage file).KeepsState := fun s => state_load.trans (hread s)
  cases call with
  | get id =>
    exact .inl ((Action.state_bind_pure _).trans
      (hload.bind (fun _ => Action.keepsState_ofExcept _) s))
  | list f =>
    exact .inl ((Action.state_bind_pure _).trans
      (hload.bind (fun _ => Action.keepsState_pure _) s))
  | command command id =>
    rw [Gateway.answer, Action.state_bind_pure]
    rcases state_runCommand hread now command id s with hsame | ⟨bytes, hstate, herror⟩
    · exact .inl hsame
    · exact .inr ⟨rfl, bytes, hstate, fun e he => herror e (Action.result_eq_error_of_bind_pure he)⟩

/-- A call to a sheet on a disk changes at most the file and its draft, and unless a command
succeeds, only the draft. -/
theorem changesAt_answer (directory file : String) (now : Instant) (call : Call) (t : Tree) :
    let full := Files.join directory file
    let draft := Files.withExtension "tmp" full
    let done := (gateway (Files.below directory) file now).answer call t
    ChangesAt [placeOf t full, placeOf t draft] t done.state ∧
      (call.isQuery = true ∨ (∃ e, done.result = .error e) →
        ChangesAt [placeOf t draft] t done.state) := by
  intro full draft done
  have hread : ((Files.below directory).read file).KeepsState := fun _ => rfl
  rcases state_answer hread now call t with hsame | ⟨hcommand, bytes, hstate, herror⟩
  · rw [hsame]
    exact ⟨.refl _ t, fun _ => .refl _ t⟩
  · obtain ⟨hwritten, hfailed⟩ := Files.changesAt_write directory file bytes t
    rw [hstate]
    refine ⟨hwritten, ?_⟩
    rintro (hquery | ⟨e, he⟩)
    · exact absurd (hquery.symm.trans hcommand) (by simp)
    · exact hfailed e (herror e he)

end CaseRouting.Sheet
