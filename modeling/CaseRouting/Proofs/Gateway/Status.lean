import CaseRouting.Proofs.Gateway.Run

/-!
# How calls move statuses

Of each row of a store, its mark tells the id and the status as they are read. A call may move the
marks in few ways: a command that succeeds turns one draft active or one active row into a draft,
and every other call leaves all of them. No such move begins or ends at a deprecated row.
-/

namespace CaseRouting

/-- The id and the status of a row, as far as they can be read. -/
structure Mark where
  id : Option String
  status : Option Status
  deriving DecidableEq

def Mark.isDeprecated (m : Mark) : Bool := m.status == some .deprecated

def TestCase.mark (c : TestCase) : Mark := ⟨some c.id, some c.status⟩

/-- How a call may move the marks of all rows, by whether it succeeds. An activation turns the first
row with its id from draft to active, a deactivation turns it back, and nothing else moves any. -/
inductive Moves : Call → Bool → List Mark → List Mark → Prop
  | failed (call : Call) (marks : List Mark) : Moves call false marks marks
  | got (id : String) (marks : List Mark) : Moves (.get id) true marks marks
  | listed (f : Filter) (marks : List Mark) : Moves (.list f) true marks marks
  | updated (changes : Changes) (id : String) (marks : List Mark) :
    Moves (.command (.update changes) id) true marks marks
  | activated (id : String) (before after : List Mark) (first : ∀ m ∈ before, m.id ≠ some id) :
    Moves (.command .activate id) true (before ++ ⟨some id, some .draft⟩ :: after)
      (before ++ ⟨some id, some .active⟩ :: after)
  | deactivated (id : String) (before after : List Mark) (first : ∀ m ∈ before, m.id ≠ some id) :
    Moves (.command .deactivate id) true (before ++ ⟨some id, some .active⟩ :: after)
      (before ++ ⟨some id, some .draft⟩ :: after)

section Moves

variable {call : Call} {command : Command} {ok : Bool} {now : Instant} {id : String}
  {c d : TestCase} {before after marks : List Mark}

/-- A command on the first test case with its id moves the status as its kind does. -/
theorem Moves.of_run (hid : c.id = id) (hrun : command.run now c = .ok d)
    (hfirst : ∀ m ∈ before, m.id ≠ some id) :
    Moves (.command command id) true (before ++ c.mark :: after) (before ++ d.mark :: after) := by
  subst hid
  cases command with
  | activate =>
    obtain ⟨hdraft, rfl⟩ := TestCase.activate_eq_ok_iff.mp hrun
    rw [TestCase.mark, hdraft]
    exact .activated c.id before after hfirst
  | deactivate =>
    obtain ⟨hactive, rfl⟩ := TestCase.deactivate_eq_ok_iff.mp hrun
    rw [TestCase.mark, hactive]
    exact .deactivated c.id before after hfirst
  | update changes =>
    obtain ⟨_, _, rfl⟩ := TestCase.apply_eq_ok_iff.mp hrun
    exact .updated changes c.id _

theorem Moves.map_isDeprecated (h : Moves call ok before after) :
    after.map Mark.isDeprecated = before.map Mark.isDeprecated := by
  cases h with
  | activated => simp [Mark.isDeprecated]
  | deactivated => simp [Mark.isDeprecated]
  | _ => rfl

end Moves

section Runs

variable {σ ι : Type} {act : ι → Action σ Answer} {callOf : ι → Call}
  {marksOf : σ → Option (List Mark)} {s : σ}

/-- The marks that can be read in a later state could be read at first, and the same rows are
deprecated. -/
def KeepsDeprecated (marksOf : σ → Option (List Mark)) (s later : σ) : Prop :=
  ∀ after ∈ marksOf later, ∃ first ∈ marksOf s,
    after.map Mark.isDeprecated = first.map Mark.isDeprecated

/-- Whenever the marks can be read after a call of a run, they could be read before it, and the call
moved them as it may; and the deprecated rows are those of the beginning. -/
def MovesAlong (act : ι → Action σ Answer) (callOf : ι → Call) (marksOf : σ → Option (List Mark))
    (s : σ) (run : List ι) : Prop :=
  ∀ t ∈ transitions act s run,
    (∀ after ∈ marksOf t.done.state,
      ∃ before ∈ marksOf t.before, Moves (callOf t.step) t.done.result.isOk before after) ∧
    KeepsDeprecated marksOf s t.done.state

theorem KeepsDeprecated.refl (marksOf : σ → Option (List Mark)) (s : σ) :
    KeepsDeprecated marksOf s s :=
  fun after hafter => ⟨after, hafter, rfl⟩

theorem KeepsDeprecated.moved {call : Call} {ok : Bool} {middle later : σ}
    (h : KeepsDeprecated marksOf s middle)
    (hmoves : ∀ after ∈ marksOf later, ∃ before ∈ marksOf middle, Moves call ok before after) :
    KeepsDeprecated marksOf s later := by
  intro after hafter
  obtain ⟨before, hbefore, hmove⟩ := hmoves after hafter
  obtain ⟨first, hfirst, hsame⟩ := h before hbefore
  exact ⟨first, hfirst, hmove.map_isDeprecated.trans hsame⟩

/-- What every call may do in the states that calls lead to, a run does. -/
theorem movesAlong_of_step {P : σ → Prop} (hs : P s) (hkept : ∀ i s, P s → P (act i s).state)
    (hstep : ∀ i s, P s → ∀ after ∈ marksOf (act i s).state,
      ∃ before ∈ marksOf s, Moves (callOf i) (act i s).result.isOk before after) (run : List ι) :
    MovesAlong act callOf marksOf s run := by
  have hnext (i : ι) (s' : σ) (h : P s' ∧ KeepsDeprecated marksOf s s') :
      P (act i s').state ∧ KeepsDeprecated marksOf s (act i s').state :=
    ⟨hkept i s' h.1, h.2.moved (hstep i s' h.1)⟩
  intro t ht
  obtain ⟨hdone, ⟨hbefore, _⟩, _, hkeeps⟩ :=
    transitions_invariant ⟨hs, KeepsDeprecated.refl marksOf s⟩ (fun i _ => hnext i) t ht
  refine ⟨?_, hkeeps⟩
  rw [hdone]
  exact hstep t.step t.before hbefore

end Runs

end CaseRouting
