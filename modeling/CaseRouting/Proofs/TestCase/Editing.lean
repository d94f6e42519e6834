import CaseRouting.Proofs.Gateway.Run
import CaseRouting.TestCase.Editing

/-!
# Commands on a test case that is held

Whatever a command does to a test case that is changed in place, it does as a whole or not at all:
its checks come before the first field is set. So a refused command leaves every field, one that is
carried out sets those it names, and titles and labels that held more than blanks still do along
every run of commands.
-/

namespace CaseRouting

namespace Command

variable {now : Instant} {command : Command} {c d : TestCase}

/-- The fields that a command gives new values, apart from the status. -/
def given : Command → Changes
  | .update changes => changes
  | _ => ⟨none, none, none⟩

def newStatus? : Command → Option Status
  | .activate => some .active
  | .deactivate => some .draft
  | .update _ => none

/-- One test case differs from another in the fields that a command names, and in the time. -/
structure Changed (command : Command) (now : Instant) (before after : TestCase) : Prop where
  id : after.id = before.id
  title : after.title = command.given.title.getD before.title
  status : after.status = command.newStatus?.getD before.status
  priority : after.priority = command.given.priority.or before.priority
  labels : after.labels = command.given.labels.getD before.labels
  updatedAt : after.updatedAt = some now

/-- A status that a command does not begin at, or a given title or label that is blank. -/
def IsRefused : Command → TestCase → Prop
  | .activate, c => c.status ≠ .draft
  | .deactivate, c => c.status ≠ .active
  | .update changes, _ =>
    (∃ t ∈ changes.title, Text.trim t = "") ∨ ∃ ls ∈ changes.labels, ∃ l ∈ ls, Text.trim l = ""

/-- Changing a test case in place ends as the change of a copy does, and a fault leaves the test
case. -/
theorem perform_eq (now : Instant) (command : Command) (c : TestCase) :
    command.perform now c =
      match command.run now c with
      | .ok d => ⟨.ok (), d, []⟩
      | .error e => ⟨.error e, c, []⟩ := by
  cases command with
  | activate =>
    rcases c with ⟨id, title, status, priority, labels, updatedAt⟩
    cases status <;> rfl
  | deactivate =>
    rcases c with ⟨id, title, status, priority, labels, updatedAt⟩
    cases status <;> rfl
  | update changes =>
    change TestCase.applyHeld now changes c = match TestCase.apply now changes c with
      | .ok d => ⟨.ok (), d, []⟩
      | .error e => ⟨.error e, c, []⟩
    unfold TestCase.applyHeld TestCase.apply
    cases TestCase.hasBlankTitle changes <;> cases TestCase.hasBlankLabel changes <;> rfl

theorem changed_of_run (h : command.run now c = .ok d) : command.Changed now c d := by
  cases command with
  | activate =>
    obtain ⟨_, rfl⟩ := TestCase.activate_eq_ok_iff.mp h
    exact ⟨rfl, rfl, rfl, Option.none_or.symm, rfl, rfl⟩
  | deactivate =>
    obtain ⟨_, rfl⟩ := TestCase.deactivate_eq_ok_iff.mp h
    exact ⟨rfl, rfl, rfl, Option.none_or.symm, rfl, rfl⟩
  | update changes =>
    obtain ⟨_, _, rfl⟩ := TestCase.apply_eq_ok_iff.mp h
    exact ⟨rfl, rfl, rfl, rfl, rfl, rfl⟩

theorem exists_run_eq_ok_iff : (∃ d, command.run now c = .ok d) ↔ ¬command.IsRefused c := by
  cases command with
  | activate => simp [run, IsRefused, TestCase.activate_eq_ok_iff]
  | deactivate => simp [run, IsRefused, TestCase.deactivate_eq_ok_iff]
  | update changes =>
    rcases changes with ⟨title, priority, labels⟩
    simp only [run, IsRefused, TestCase.apply_eq_ok_iff, exists_and_left, exists_eq, and_true,
      Text.trim_eq_empty_iff]
    cases title <;> cases labels <;>
      simp [TestCase.hasBlankTitle, TestCase.hasBlankLabel]

/-- What a single command leaves of a test case that is held: all of it, or the test case with the
fields that the command names. -/
theorem perform_cases (now : Instant) (command : Command) (c : TestCase) :
    (∃ e, command.perform now c = ⟨.error e, c, []⟩ ∧ command.run now c = .error e ∧
        command.IsRefused c) ∨
      ∃ d, command.perform now c = ⟨.ok (), d, []⟩ ∧ command.run now c = .ok d ∧
        ¬command.IsRefused c ∧ command.Changed now c d := by
  rw [perform_eq]
  cases hrun : command.run now c with
  | error e =>
    refine .inl ⟨e, rfl, rfl, not_not.mp fun haccepted => ?_⟩
    obtain ⟨d, hd⟩ := exists_run_eq_ok_iff.mpr haccepted
    exact absurd (hrun.symm.trans hd) (by simp)
  | ok d => exact .inr ⟨d, rfl, rfl, exists_run_eq_ok_iff.mp ⟨d, hrun⟩, changed_of_run hrun⟩

end Command

structure TestCase.HasContent (c : TestCase) : Prop where
  title : Text.trim c.title ≠ ""
  labels : ∀ l ∈ c.labels, Text.trim l ≠ ""

namespace Command

variable {now : Instant} {command : Command} {c d : TestCase}

/-- Of the new values that a command gives, its check has seen the title and the labels. -/
theorem hasContent_of_changed (hc : c.HasContent) (haccepted : ¬command.IsRefused c)
    (h : command.Changed now c d) : d.HasContent := by
  cases command with
  | activate => exact ⟨h.title ▸ hc.title, h.labels ▸ hc.labels⟩
  | deactivate => exact ⟨h.title ▸ hc.title, h.labels ▸ hc.labels⟩
  | update changes =>
    obtain ⟨htitle, hlabels⟩ := not_or.mp haccepted
    constructor
    · rw [h.title, given]
      cases hgiven : changes.title with
      | none => exact hc.title
      | some t => exact fun hblank => htitle ⟨t, hgiven, hblank⟩
    · rw [h.labels, given]
      cases hgiven : changes.labels with
      | none => exact hc.labels
      | some ls => exact fun l hl hblank => hlabels ⟨ls, hgiven, l, hl, hblank⟩

theorem hasContent_perform (hc : c.HasContent) : (command.perform now c).state.HasContent := by
  rcases perform_cases now command c with ⟨e, hdone, _, _⟩ | ⟨d, hdone, _, haccepted, hchanged⟩
  · rw [hdone]
    exact hc
  · rw [hdone]
    exact hasContent_of_changed hc haccepted hchanged

end Command

/-- Along every run of commands on a test case, each of them ends as it would on a copy. It is
refused exactly for what it asks of the status or gives as a blank text, and then every field is as
before; else it sets the fields it names and the time. Titles and labels that hold more than blanks
at first do so after each command. -/
theorem commands_are_atomic_along_run (c : TestCase) (run : List (Instant × Command)) :
    ∀ t ∈ transitions (fun step => step.2.perform step.1) c run,
      (t.step.2.run t.step.1 t.before = t.done.result.map fun _ => t.done.state) ∧
        ((∃ e, t.done.result = .error e) ↔ t.step.2.IsRefused t.before) ∧
        (∀ e, t.done.result = .error e → t.done.state = t.before) ∧
        (t.done.result = .ok () → t.step.2.Changed t.step.1 t.before t.done.state) ∧
        (c.HasContent → t.before.HasContent ∧ t.done.state.HasContent) := by
  intro t ht
  have hkept := transitions_invariant (P := fun d => c.HasContent → d.HasContent) (fun hc => hc)
    (fun step _ d hd hc => Command.hasContent_perform (hd hc)) t ht
  obtain ⟨hdone, hbefore, hafter⟩ := hkept
  have hcontent (hc : c.HasContent) : t.before.HasContent ∧ t.done.state.HasContent :=
    ⟨hbefore hc, hafter hc⟩
  rcases Command.perform_cases t.step.1 t.step.2 t.before with
    ⟨e, hperform, hrun, hrefused⟩ | ⟨d, hperform, hrun, haccepted, hchanged⟩
  · rw [hdone.trans hperform] at hcontent ⊢
    exact ⟨hrun, iff_of_true ⟨e, rfl⟩ hrefused, fun _ _ => rfl, fun h => absurd h (by simp),
      hcontent⟩
  · rw [hdone.trans hperform] at hcontent ⊢
    exact ⟨hrun, iff_of_false (by simp) haccepted, fun _ h => absurd h (by simp),
      fun _ => hchanged, hcontent⟩

/-- A draft is activated, then given a new title together with a blank label, then deactivated. -/
def mixedCommands : List (Instant × Command) := [
  (.startOfYear 2024, .activate),
  (.startOfYear 2025, .update ⟨some "Login with SSO", none, some ["auth", "\u2003"]⟩),
  (.startOfYear 2026, .deactivate)]

/-- The update is refused for its label, and its title is not taken over. -/
theorem mixedCommands_are_atomic :
    ∃ t ∈ transitions (fun step => step.2.perform step.1) (.draft "tc-1" "Login works")
        mixedCommands,
      t.step.1 = .startOfYear 2025 ∧ t.before.status = .active ∧
        (∃ e, t.done.result = .error e) ∧ t.done.state = t.before ∧ t.done.state.HasContent := by
  refine ⟨_, List.mem_cons_of_mem _ List.mem_cons_self, rfl, rfl, ?_⟩
  obtain ⟨_, hrefused, hkept, _, hcontent⟩ :=
    commands_are_atomic_along_run (.draft "tc-1" "Login works") mixedCommands _
      (List.mem_cons_of_mem _ List.mem_cons_self)
  have hblank : ∃ l ∈ ["auth", "\u2003"], Text.trim l = "" := ⟨"\u2003", by simp, by decide⟩
  obtain ⟨e, he⟩ := hrefused.mpr (.inr ⟨_, rfl, hblank⟩)
  exact ⟨⟨e, he⟩, hkept e he, (hcontent ⟨by decide, by simp [TestCase.draft]⟩).2⟩

end CaseRouting
