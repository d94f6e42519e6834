import CaseRouting.Proofs.Instant.Stored
import CaseRouting.TestCase.Basic

/-!
# Test cases and what a command does to them

A command that is not refused changes the status or the fields it names, notes the time, and keeps
everything else.
-/

namespace CaseRouting

theorem Status.trim_name (s : Status) : Text.trim s.name = s.name := by
  cases s <;> decide

theorem Status.ofCell?_name (s : Status) : Status.ofCell? s.name = some s := by
  cases s <;> decide +kernel

def TestCase.HasStorableTime (c : TestCase) : Prop := ∀ t ∈ c.updatedAt, t.HasFourDigitYear

instance (c : TestCase) : Decidable c.HasStorableTime :=
  inferInstanceAs (Decidable (∀ t ∈ c.updatedAt, t.HasFourDigitYear))

namespace TestCase

theorem activate_eq_ok_iff {now : Instant} {c d : TestCase} :
    c.activate now = .ok d ↔
      c.status = .draft ∧ d = { c with status := .active, updatedAt := some now } := by
  rw [activate]
  cases c.status <;> simp [eq_comm]

theorem deactivate_eq_ok_iff {now : Instant} {c d : TestCase} :
    c.deactivate now = .ok d ↔
      c.status = .active ∧ d = { c with status := .draft, updatedAt := some now } := by
  rw [deactivate]
  cases c.status <;> simp [eq_comm]

theorem apply_eq_ok_iff {now : Instant} {changes : Changes} {c d : TestCase} :
    c.apply now changes = .ok d ↔
      hasBlankTitle changes = false ∧ hasBlankLabel changes = false ∧
        d = { c with
          title := changes.title.getD c.title
          priority := changes.priority.or c.priority
          labels := changes.labels.getD c.labels
          updatedAt := some now } := by
  rw [apply]
  cases hasBlankTitle changes <;> cases hasBlankLabel changes <;> simp [eq_comm]

end TestCase

namespace Command

variable {now : Instant} {command : Command} {c d : TestCase}

theorem id_of_run (h : command.run now c = .ok d) : d.id = c.id := by
  cases command with
  | activate => rw [(TestCase.activate_eq_ok_iff.mp h).2]
  | deactivate => rw [(TestCase.deactivate_eq_ok_iff.mp h).2]
  | update changes => rw [(TestCase.apply_eq_ok_iff.mp h).2.2]

theorem updatedAt_of_run (h : command.run now c = .ok d) : d.updatedAt = some now := by
  cases command with
  | activate => rw [(TestCase.activate_eq_ok_iff.mp h).2]
  | deactivate => rw [(TestCase.deactivate_eq_ok_iff.mp h).2]
  | update changes => rw [(TestCase.apply_eq_ok_iff.mp h).2.2]

theorem hasStorableTime_iff_of_run (h : command.run now c = .ok d) :
    d.HasStorableTime ↔ now.HasFourDigitYear := by
  simp [TestCase.HasStorableTime, updatedAt_of_run h]

theorem hasStorableTime_of_run (hnow : now.HasFourDigitYear) (h : command.run now c = .ok d) :
    d.HasStorableTime :=
  (hasStorableTime_iff_of_run h).mpr hnow

end Command

end CaseRouting
