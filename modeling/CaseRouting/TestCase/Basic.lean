import CaseRouting.Fault
import CaseRouting.Instant.Format
import CaseRouting.TestCase.Status

/-!
# Test cases

A test case and the three changes it allows: activation of a draft, deactivation of an active case,
and an update of some of its fields. Each change either happens as a whole, with the time of the
change noted, or is refused and leaves the case as it was.
-/

namespace CaseRouting

structure TestCase where
  id : String
  title : String
  status : Status
  priority : Option String
  labels : List String
  updatedAt : Option Instant
  deriving DecidableEq

/-- New values for some fields of a test case; an absent field keeps its value. -/
structure Changes where
  title : Option String
  priority : Option String
  labels : Option (List String)
  deriving DecidableEq

def Changes.isEmpty (c : Changes) : Bool :=
  c.title.isNone && c.priority.isNone && c.labels.isNone

namespace TestCase

/-- A draft without anything optional. -/
def draft (id title : String) : TestCase := ⟨id, title, .draft, none, [], none⟩

def activate (now : Instant) (c : TestCase) : Except Fault TestCase :=
  match c.status with
  | .draft => .ok { c with status := .active, updatedAt := some now }
  | .active => .error (.conflict c.id "already active")
  | .deprecated =>
    .error (.refused ("deprecated test case " ++ c.id ++ " cannot be activated"))

def deactivate (now : Instant) (c : TestCase) : Except Fault TestCase :=
  match c.status with
  | .active => .ok { c with status := .draft, updatedAt := some now }
  | other => .error (.conflict c.id ("cannot deactivate a " ++ other.name ++ " test case"))

def hasBlankTitle (changes : Changes) : Bool := changes.title.any Text.isBlankText

def hasBlankLabel (changes : Changes) : Bool :=
  changes.labels.any fun ls => ls.any Text.isBlankText

/-- Sets the fields that are given. A title or a label must hold more than blanks. -/
def apply (now : Instant) (changes : Changes) (c : TestCase) : Except Fault TestCase :=
  if hasBlankTitle changes then .error (.refused "title cannot be empty")
  else if hasBlankLabel changes then .error (.refused "labels cannot be blank")
  else .ok { c with
    title := changes.title.getD c.title
    priority := changes.priority.or c.priority
    labels := changes.labels.getD c.labels
    updatedAt := some now }

end TestCase

/-- A change of one test case. -/
inductive Command where
  | activate
  | deactivate
  | update (changes : Changes)
  deriving DecidableEq

/-- The test case after a command, with the time at which it was given. -/
def Command.run (now : Instant) : Command → TestCase → Except Fault TestCase
  | .activate => TestCase.activate now
  | .deactivate => TestCase.deactivate now
  | .update changes => TestCase.apply now changes

end CaseRouting
