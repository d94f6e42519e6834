import CaseRouting.Proofs.Gateway.Run
import CaseRouting.Proofs.Sheet.Effect

/-!
# What a call does to the file

A storage can note how it is used, which changes nothing else. By these notes a query reads the
sheet once, and a command reads it at most once and then writes it at most once. A call that fails
leaves the file as it was, for every storage whose failed writes do.
-/

namespace CaseRouting

variable {σ α β : Type}

namespace Files

/-- One use of a storage, and for a write whether it succeeded. -/
inductive Access where
  | read (file : String)
  | write (file : String) (bytes : Bytes) (succeeded : Bool)
  deriving DecidableEq

def Storage.noted (storage : Storage σ) : Storage (σ × List Access) where
  read file := fun (s, accesses) =>
    let done := storage.read file s
    ⟨done.result, (done.state, accesses ++ [.read file]), done.events⟩
  write file bytes := fun (s, accesses) =>
    let done := storage.write file bytes s
    ⟨done.result, (done.state, accesses ++ [.write file bytes done.result.isOk]), done.events⟩

/-- Reading a file, and failing to write it, leave its content as it is. -/
structure Storage.KeepsContent (storage : Storage σ) (file : String) (content : σ → Option Bytes) :
    Prop where
  read : ∀ s, content (storage.read file s).state = content s
  write : ∀ bytes s e, (storage.write file bytes s).result = .error e →
    content (storage.write file bytes s).state = content s

theorem memory_keepsContent (file : String) : memory.KeepsContent file MemoryFile.content where
  read := by
    rintro ⟨_ | bytes, refusal, writes⟩ <;> rfl
  write := by
    rintro bytes ⟨content, _ | message, writes⟩ e h
    · exact absurd h (by simp [memory])
    · rfl

end Files

open Files (Access Storage MemoryFile memory)

def Outcome.noting (done : Outcome σ α) (accesses : List Access) : Outcome (σ × List Access) α :=
  ⟨done.result, (done.state, accesses), done.events⟩

namespace Action

variable {x : Action σ α} {y : Action (σ × List Access) α} {f : α → Action σ β}
  {g : α → Action (σ × List Access) β} {s : σ} {t : σ × List Access} {before after : List Access}

theorem noting_bind_of_error {e : Fault} (h : y t = (x s).noting before)
    (hx : (x s).result = .error e) : (y >>= g) t = ((x >>= f) s).noting before := by
  change Action.bind y g t = (Action.bind x f s).noting before
  unfold Action.bind
  rw [h]
  generalize x s = done at hx
  rcases done with ⟨result, u, events⟩
  obtain rfl : result = .error e := hx
  rfl

theorem noting_bind_of_ok {a : α} (h : y t = (x s).noting before) (hx : (x s).result = .ok a)
    (hnext : g a ((x s).state, before) = (f a (x s).state).noting after) :
    (y >>= g) t = ((x >>= f) s).noting after := by
  change Action.bind y g t = (Action.bind x f s).noting after
  unfold Action.bind
  rw [h]
  generalize x s = done at hx hnext
  rcases done with ⟨result, u, events⟩
  obtain rfl : result = .ok a := hx
  dsimp only [Outcome.noting] at hnext ⊢
  rw [hnext]

theorem noting_bind (h : y t = (x s).noting before)
    (hnext : ∀ a u, g a (u, before) = (f a u).noting before) :
    (y >>= g) t = ((x >>= f) s).noting before := by
  cases hx : (x s).result with
  | error e => exact noting_bind_of_error h hx
  | ok a => exact noting_bind_of_ok h hx (hnext a _)

end Action

namespace Sheet

variable {storage : Storage σ} {file id : String} {now : Instant} {command : Command}
  {cs : List TestCase} {s : σ} {accesses : List Access}

theorem load_noted : load storage.noted file (s, accesses) =
    (load storage file s).noting (accesses ++ [.read file]) := by
  unfold load
  have hread : storage.noted.read file (s, accesses) =
      (storage.read file s).noting (accesses ++ [.read file]) := rfl
  apply Action.noting_bind hread
  intro bytes t
  cases decode bytes <;> rfl

theorem save_noted : save storage.noted file cs (s, accesses) =
    (save storage file cs s).noting
      (accesses ++ [.write file (encode cs) (save storage file cs s).result.isOk]) := rfl

/-- How a call may use the file, and whether it may then succeed. A query reads. A command stops
before it has read or before it writes, and fails, or it reads and then writes, and ends as the
write did. -/
inductive CallAccesses (file : String) : Call → Bool → List Access → Prop
  | got (id : String) (ok : Bool) : CallAccesses file (.get id) ok [.read file]
  | listed (f : Filter) (ok : Bool) : CallAccesses file (.list f) ok [.read file]
  | unread (command : Command) (id : String) : CallAccesses file (.command command id) false []
  | unwritten (command : Command) (id : String) :
    CallAccesses file (.command command id) false [.read file]
  | written (command : Command) (id : String) (bytes : Bytes) (ok : Bool) :
    CallAccesses file (.command command id) ok [.read file, .write file bytes ok]

theorem state_load : (load storage file s).state = (storage.read file s).state := by
  unfold load
  cases hresult : (storage.read file s).result with
  | error e => exact Action.state_bind_of_error hresult
  | ok bytes =>
    rw [Action.state_bind_of_ok hresult]
    cases decode bytes <;> rfl

/-- The last part of a command: what was changed is written back and answered. -/
def writeBack (storage : Storage σ) (file : String) :
    Except Fault (TestCase × List TestCase) → Action σ TestCase
  | .error e => Action.fail e
  | .ok (d, ds) => do
    save storage file ds
    pure d

theorem runCommand_of_refused {e : Fault} (h : checkLabels command = .error e) :
    runCommand storage file now command id s = ⟨.error e, s, []⟩ := by
  unfold runCommand
  rw [h, Action.ofExcept_error_bind]

theorem runCommand_of_accepted (h : checkLabels command = .ok ()) :
    runCommand storage file now command id =
      load storage file >>= fun cs =>
        writeBack storage file (changeFirst id (command.run now) cs) := by
  funext s
  unfold runCommand
  rw [h, Action.ofExcept_ok_bind]
  refine congrArg (fun next => (load storage file >>= next) s) ?_
  funext cs
  cases changeFirst id (command.run now) cs <;> rfl

theorem writeBack_noted (storage : Storage σ) (file : String) (command : Command) (id : String)
    (changed : Except Fault (TestCase × List TestCase)) (s : σ) :
    ∃ more, writeBack storage.noted file changed (s, [.read file]) =
        (writeBack storage file changed s).noting (.read file :: more) ∧
      CallAccesses file (.command command id) (writeBack storage file changed s).result.isOk
        (.read file :: more) := by
  cases changed with
  | error e => exact ⟨[], rfl, .unwritten command id⟩
  | ok changed =>
    obtain ⟨d, ds⟩ := changed
    refine ⟨[.write file (encode ds) (save storage file ds s).result.isOk], ?_, ?_⟩
    · exact Action.noting_bind save_noted fun _ _ => rfl
    · unfold writeBack
      rw [Action.isOk_result_bind_pure]
      exact .written command id _ _

theorem runCommand_noted :
    ∃ accesses, runCommand storage.noted file now command id (s, []) =
        (runCommand storage file now command id s).noting accesses ∧
      CallAccesses file (.command command id)
        (runCommand storage file now command id s).result.isOk accesses := by
  cases hlabels : checkLabels command with
  | error e =>
    rw [runCommand_of_refused hlabels, runCommand_of_refused hlabels]
    exact ⟨[], rfl, .unread command id⟩
  | ok done =>
    rw [runCommand_of_accepted hlabels, runCommand_of_accepted hlabels]
    have hnoted : load storage.noted file (s, []) = (load storage file s).noting [.read file] :=
      load_noted
    cases hload : (load storage file s).result with
    | error e =>
      refine ⟨_, Action.noting_bind_of_error hnoted hload, ?_⟩
      rw [Action.result_bind_of_error hload]
      exact .unwritten command id
    | ok cs =>
      obtain ⟨more, hmore, haccesses⟩ := writeBack_noted storage file command id
        (changeFirst id (command.run now) cs) (load storage file s).state
      refine ⟨_, Action.noting_bind_of_ok hnoted hload hmore, ?_⟩
      rw [Action.result_bind_of_ok hload]
      exact haccesses

theorem answer_noted (storage : Storage σ) (file : String) (now : Instant) (call : Call) (s : σ) :
    ∃ accesses, (gateway storage.noted file now).answer call (s, []) =
        ((gateway storage file now).answer call s).noting accesses ∧
      CallAccesses file call ((gateway storage file now).answer call s).result.isOk accesses := by
  cases call with
  | command command id =>
    obtain ⟨accesses, hnoted, haccesses⟩ := runCommand_noted
    refine ⟨accesses, Action.noting_bind hnoted fun _ _ => rfl, ?_⟩
    rw [Gateway.answer, Action.isOk_result_bind_pure]
    exact haccesses
  | get id =>
    have hget : (gateway storage.noted file now).get id (s, []) =
        ((gateway storage file now).get id s).noting [.read file] :=
      Action.noting_bind load_noted fun _ _ => rfl
    exact ⟨_, Action.noting_bind hget fun _ _ => rfl, .got id _⟩
  | list f =>
    have hlist : (gateway storage.noted file now).list f (s, []) =
        ((gateway storage file now).list f s).noting [.read file] :=
      Action.noting_bind load_noted fun _ _ => rfl
    exact ⟨_, Action.noting_bind hlist fun _ _ => rfl, .listed f _⟩

section Content

variable {content : σ → Option Bytes} {e : Fault}

theorem content_load (h : storage.KeepsContent file content) :
    content (load storage file s).state = content s := by
  rw [state_load, h.read]

theorem content_writeBack_of_error (h : storage.KeepsContent file content)
    {changed : Except Fault (TestCase × List TestCase)}
    (hresult : (writeBack storage file changed s).result = .error e) :
    content (writeBack storage file changed s).state = content s := by
  cases changed with
  | error e' => rfl
  | ok changed =>
    obtain ⟨d, ds⟩ := changed
    have hstate : (writeBack storage file (.ok (d, ds)) s).state =
        (storage.write file (encode ds) s).state :=
      Action.state_bind_pure fun _ => d
    rw [hstate]
    exact h.write _ _ e (Action.result_eq_error_of_bind_pure hresult)

/-- A command can fail before it reads, while it reads, before it writes and while it writes. -/
theorem content_runCommand_of_error (h : storage.KeepsContent file content)
    (hresult : (runCommand storage file now command id s).result = .error e) :
    content (runCommand storage file now command id s).state = content s := by
  cases hlabels : checkLabels command with
  | error e' => rw [runCommand_of_refused hlabels]
  | ok done =>
    rw [runCommand_of_accepted hlabels] at hresult ⊢
    cases hload : (load storage file s).result with
    | error e' => rw [Action.state_bind_of_error hload, content_load h]
    | ok cs =>
      rw [Action.result_bind_of_ok hload] at hresult
      rw [Action.state_bind_of_ok hload, content_writeBack_of_error h hresult, content_load h]

theorem content_answer_get (h : storage.KeepsContent file content) :
    content ((gateway storage file now).answer (.get id) s).state = content s := by
  rw [Gateway.answer, Action.state_bind_pure]
  exact (congrArg content (Action.state_bind_of_keepsState fun _ =>
    Action.keepsState_ofExcept _)).trans (content_load h)

theorem content_answer_list (h : storage.KeepsContent file content) {f : Filter} :
    content ((gateway storage file now).answer (.list f) s).state = content s := by
  rw [Gateway.answer, Action.state_bind_pure]
  exact (congrArg content (Action.state_bind_of_keepsState fun _ =>
    Action.keepsState_pure _)).trans (content_load h)

theorem content_answer_of_error (h : storage.KeepsContent file content) {call : Call}
    (hresult : ((gateway storage file now).answer call s).result = .error e) :
    content ((gateway storage file now).answer call s).state = content s := by
  cases call with
  | command command id =>
    rw [Gateway.answer, Action.state_bind_pure]
    exact content_runCommand_of_error h (Action.result_eq_error_of_bind_pure hresult)
  | get id => exact content_answer_get h
  | list f => exact content_answer_list h

end Content

/-- A call that fails leaves the content of the file as it was, a query only reads it, and a command
writes it at most once, at the end, and succeeds exactly if that does. -/
theorem call_uses_file {content : σ → Option Bytes} (h : storage.KeepsContent file content)
    (now : Instant) (call : Call) (s : σ) :
    (∀ e, ((gateway storage file now).answer call s).result = .error e →
        content ((gateway storage file now).answer call s).state = content s) ∧
      ∃ accesses, (gateway storage.noted file now).answer call (s, []) =
          ((gateway storage file now).answer call s).noting accesses ∧
        CallAccesses file call ((gateway storage file now).answer call s).result.isOk accesses :=
  ⟨fun _ => content_answer_of_error h, answer_noted storage file now call s⟩

/-- A command that gets as far as a write that is refused. -/
theorem refused_write_uses_file :
    let refusing : MemoryFile := { sharedIdSheet with refusal := some "disk full" }
    let done := (gateway memory "cases.csv" (.startOfYear 2024)).answer (.command .deactivate "t1")
      refusing
    done.result = .error (.file (.other "disk full")) ∧
      (∀ e, done.result = .error e → done.state.content = refusing.content) ∧
        ∃ accesses, (gateway memory.noted "cases.csv" (.startOfYear 2024)).answer
            (.command .deactivate "t1") (refusing, []) = done.noting accesses ∧
          CallAccesses "cases.csv" (.command .deactivate "t1") done.result.isOk accesses :=
  ⟨by decide +kernel, call_uses_file (Files.memory_keepsContent "cases.csv") _ _ _⟩

end Sheet

end CaseRouting
