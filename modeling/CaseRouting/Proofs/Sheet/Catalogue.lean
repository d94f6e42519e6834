import CaseRouting.Proofs.Gateway.Catalogue
import CaseRouting.Proofs.Sheet.Run

/-!
# The sheet as a catalogue

A sheet whose rows are in the order of their ids, with none twice and with times that can be stored,
answers as the catalogue of its test cases does, as long as no call sets a text that its cell would
not give back.
-/

namespace CaseRouting.Sheet

open Files (MemoryFile memory)
open Text (IsTrimmed)

variable {file id : String} {now : Instant} {command : Command} {c d : TestCase}
  {cs ds : List TestCase} {s : MemoryFile} {m : Catalogue}

/-- A call that sets no text which its cell would not give back. A title or a label may be empty, as
it is refused for that. -/
def IsFitCall : Call → Prop
  | .command (.update changes) _ =>
    (∀ t ∈ changes.title, IsTrimmed t) ∧ (∀ p ∈ changes.priority, IsTrimmed p ∧ p ≠ "") ∧
      ∀ ls ∈ changes.labels, ∀ l ∈ ls, IsTrimmed l ∧ labelSeparator ∉ l.toList
  | _ => True

instance (call : Call) : Decidable (IsFitCall call) :=
  match call with
  | .command (.update changes) _ =>
    inferInstanceAs (Decidable ((∀ t ∈ changes.title, IsTrimmed t) ∧
      (∀ p ∈ changes.priority, IsTrimmed p ∧ p ≠ "") ∧
        ∀ ls ∈ changes.labels, ∀ l ∈ ls, IsTrimmed l ∧ labelSeparator ∉ l.toList))
  | .command .activate _ | .command .deactivate _ | .get _ | .list _ =>
    inferInstanceAs (Decidable True)

theorem IsFitCall.hasFitTexts (h : IsFitCall (.command command id)) : command.HasFitTexts := by
  cases command with
  | activate => trivial
  | deactivate => trivial
  | update changes => exact ⟨h.1, h.2.1⟩

theorem IsFitCall.checkLabels (h : IsFitCall (.command command id)) :
    checkLabels command = .ok () := by
  cases command with
  | activate => rfl
  | deactivate => rfl
  | update changes =>
    rw [checkLabels_update_eq_ok_iff]
    intro l hl
    cases hlabels : changes.labels with
    | none => simp [hlabels] at hl
    | some ls =>
      rw [hlabels, Option.getD_some] at hl
      exact (h.2.2 ls hlabels l hl).symm

/-- The answer of a change is that of looking the test case up and changing it. -/
theorem map_fst_changeFirst (id : String) (change : TestCase → Except Fault TestCase)
    (cs : List TestCase) :
    Prod.fst <$> changeFirst id change cs = findCase id cs >>= change := by
  induction cs with
  | nil => rfl
  | cons c rest ih =>
    unfold changeFirst findCase
    unfold findCase at ih
    by_cases hc : c.id = id
    · rw [if_pos hc, List.find?_cons_of_pos (by simpa using hc), ok_bind]
      cases change c <;> rfl
    · rw [if_neg hc, List.find?_cons_of_neg (by simpa using hc), ← ih]
      cases changeFirst id change rest <;> rfl

/-- The first test case with an id is the only one where none stands twice. -/
theorem eq_replace_of_changeFirst (hnodup : (cs.map TestCase.id).Nodup)
    (h : changeFirst id (command.run now) cs = .ok (d, ds)) : ds = Catalogue.replace d cs := by
  obtain ⟨before, c, after, rfl, hbefore, hc, hrun, rfl⟩ := changeFirst_eq_ok_iff.mp h
  obtain rfl : d.id = id := (Command.id_of_run hrun).trans hc
  rw [List.map_append, List.map_cons, List.nodup_append, List.nodup_cons] at hnodup
  have hafter : ∀ e ∈ after, e.id ≠ d.id := by
    intro e he hea
    exact hnodup.2.1.1 (List.mem_map.mpr ⟨e, he, hea.trans hc.symm⟩)
  have hreplace : Catalogue.replace d (before ++ c :: after) =
      Catalogue.replace d before ++ d :: Catalogue.replace d after := by
    unfold Catalogue.replace
    rw [List.map_append, List.map_cons, if_pos hc]
  rw [hreplace, Catalogue.replace_of_forall_ne hbefore, Catalogue.replace_of_forall_ne hafter]

theorem result_runCommand_of_error {e : Fault} (hload : (load memory file s).result = .ok cs)
    (hlabels : checkLabels command = .ok ()) (h : changeFirst id (command.run now) cs = .error e) :
    (runCommand memory file now command id s).result = .error e := by
  unfold runCommand
  rw [Action.result_bind_of_ok hlabels, Action.state_ofExcept, Action.result_bind_of_ok hload]
  exact Action.result_bind_of_error h

/-- A sheet that takes writes and holds the test cases of a catalogue, in the order of their ids. -/
structure Holds (file : String) (s : MemoryFile) (m : Catalogue) : Prop where
  refusal : s.refusal = none
  load : (load memory file s).result = .ok m.inOrder
  lists : Catalogue.Lists m m.inOrder
  times : ∀ c ∈ m.inOrder, c.HasStorableTime

theorem holds_encode {writes : ℕ} (hlists : Catalogue.Lists m m.inOrder)
    (hfit : ∀ c ∈ m.inOrder, IsFit c) (htimes : ∀ c ∈ m.inOrder, c.HasStorableTime) :
    Holds file ⟨some (encode m.inOrder), none, writes⟩ m where
  refusal := rfl
  load := result_load_encode_eq_ok_iff.mpr ⟨htimes, (map_reread_of_isFit hfit).symm⟩
  lists := hlists
  times := htimes

/-- The other test cases are fit because they were read. -/
theorem Holds.encode_insert (h : Holds file s m) (hold : d.id ∈ m) (hfit : IsFit d)
    (htime : d.HasStorableTime) (writes : ℕ) :
    Holds file ⟨some (encode (Catalogue.inOrder (m.insert d.id d))), none, writes⟩
      (m.insert d.id d) := by
  have hall : ∀ e ∈ Catalogue.inOrder (m.insert d.id d), IsFit e ∧ e.HasStorableTime := by
    intro e he
    rw [h.lists.inOrder_insert hold, Catalogue.mem_replace_iff (h.lists.mem_iff.mp hold)] at he
    rcases he with rfl | ⟨he, _⟩
    · exact ⟨hfit, htime⟩
    · exact ⟨isFit_of_load h.load e he, h.times e he⟩
  apply holds_encode (h.lists.replace hold).inOrder
  · intro e he
    exact (hall e he).1
  · intro e he
    exact (hall e he).2

theorem Holds.findCase_eq_find (h : Holds file s m) (id : String) :
    findCase id m.inOrder = m.find id := by
  have hfind := h.lists.find?_eq_lookup id
  cases hlookup : m.lookup id <;> simp [findCase, Catalogue.find, hfind, hlookup]

theorem agree_get (now : Instant) (id : String) :
    Agree (Holds file) ((gateway memory file now).get id) ((Catalogue.gateway now).get id) := by
  intro s m h
  rw [keepsState_get id s]
  refine ⟨?_, h⟩
  change ((load memory file >>= fun cs => Action.ofExcept (findCase id cs)) s).result = m.find id
  rw [Action.result_bind_of_ok h.load, Action.result_ofExcept, h.findCase_eq_find]

theorem agree_list (now : Instant) (f : Filter) :
    Agree (Holds file) ((gateway memory file now).list f) ((Catalogue.gateway now).list f) := by
  intro s m h
  rw [keepsState_list f s]
  refine ⟨?_, h⟩
  change ((load memory file >>= fun cs => pure (f.apply cs)) s).result = .ok (f.apply m.inOrder)
  rw [Action.result_bind_of_ok h.load, Action.result_pure]

/-- A command that is not refused replaces one test case, in its place. -/
theorem agree_command (hnow : now.HasFourDigitYear) (hfit : IsFitCall (.command command id)) :
    Agree (Holds file) ((gateway memory file now).command command id)
      ((Catalogue.gateway now).command command id) := by
  intro s m h
  change (runCommand memory file now command id s).result = _ ∧
    Holds file (runCommand memory file now command id s).state _
  have hanswer : Prod.fst <$> changeFirst id (command.run now) m.inOrder =
      m.find id >>= command.run now := by
    rw [map_fst_changeFirst, h.findCase_eq_find]
  cases hchange : changeFirst id (command.run now) m.inOrder with
  | error e =>
    rw [hchange] at hanswer
    have hresult := result_runCommand_of_error h.load hfit.checkLabels hchange
    rw [Catalogue.command_of_error hanswer.symm, failsCleanly_runCommand s e hresult]
    exact ⟨hresult, h⟩
  | ok changed =>
    obtain ⟨d, ds⟩ := changed
    rw [hchange] at hanswer
    have hchanged : changedBy now command id m.inOrder = .ok (d, ds) :=
      bind_eq_ok_iff.mpr ⟨(), hfit.checkLabels, hchange⟩
    obtain ⟨c, hmem, hrun, rfl, hold⟩ := h.lists.exists_changed hanswer.symm
    have hd : IsFit d :=
      (isFit_iff_of_run (isFit_of_load h.load c hmem) hfit.checkLabels hrun).mpr hfit.hasFitTexts
    obtain rfl : ds = Catalogue.inOrder (m.insert d.id d) := by
      rw [h.lists.inOrder_insert hold]
      exact eq_replace_of_changeFirst h.lists.nodup hchange
    rw [Catalogue.command_of_ok hanswer.symm, state_runCommand_of_ok h.refusal h.load hchanged,
      h.refusal]
    refine ⟨result_runCommand_eq_ok_iff.mpr ⟨h.refusal, _, _, h.load, hchanged⟩, ?_⟩
    exact h.encode_insert hold hd (Command.hasStorableTime_of_run hnow hrun) _

theorem agree_answer {call : Call} (hnow : now.HasFourDigitYear) (hfit : IsFitCall call) :
    Agree (Holds file) ((gateway memory file now).answer call)
      ((Catalogue.gateway now).answer call) := by
  cases call with
  | command command id => exact (agree_command hnow hfit).bind_pure _
  | get id => exact (agree_get now id).bind_pure _
  | list filter => exact (agree_list now filter).bind_pure _

end CaseRouting.Sheet
