import CaseRouting.Action
import CaseRouting.TestCase.Basic

/-!
# Test cases changed in place

A command on a test case that its owner holds. It is checked first, and then sets one field after
the other; a command that stopped on the way would leave the fields set that far.
-/

namespace CaseRouting

namespace TestCase

/-- Sets a part of the test case that is held. -/
def assign (set : TestCase → TestCase) : Action TestCase Unit := fun c => ⟨.ok (), set c, []⟩

def refuseIf (condition : Bool) (rule : String) : Action TestCase Unit :=
  if condition then Action.fail (.refused rule) else pure ()

/-- Notes the time of a change. -/
def touch (now : Instant) : Action TestCase Unit := assign fun c => { c with updatedAt := some now }

def activateHeld (now : Instant) : Action TestCase Unit := do
  let c ← Action.get
  match c.status with
  | .draft => do
    assign fun c => { c with status := .active }
    touch now
  | .active => Action.fail (.conflict c.id "already active")
  | .deprecated =>
    Action.fail (.refused ("deprecated test case " ++ c.id ++ " cannot be activated"))

def deactivateHeld (now : Instant) : Action TestCase Unit := do
  let c ← Action.get
  match c.status with
  | .active => do
    assign fun c => { c with status := .draft }
    touch now
  | other => Action.fail (.conflict c.id ("cannot deactivate a " ++ other.name ++ " test case"))

def applyHeld (now : Instant) (changes : Changes) : Action TestCase Unit := do
  refuseIf (hasBlankTitle changes) "title cannot be empty"
  refuseIf (hasBlankLabel changes) "labels cannot be blank"
  assign fun c => { c with title := changes.title.getD c.title }
  assign fun c => { c with priority := changes.priority.or c.priority }
  assign fun c => { c with labels := changes.labels.getD c.labels }
  touch now

end TestCase

/-- Carries a command out on the test case that is held. -/
def Command.perform (now : Instant) : Command → Action TestCase Unit
  | .activate => TestCase.activateHeld now
  | .deactivate => TestCase.deactivateHeld now
  | .update changes => TestCase.applyHeld now changes

end CaseRouting
