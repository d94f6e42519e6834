import CaseRouting.Proofs.Sheet.Command

/-!
# What a command leaves to be read

After a command the sheet is read as before, but for the one test case that was changed, and only as
far as all times can be stored. The changed test case is read as its row holds it.
-/

namespace CaseRouting.Sheet

open Files (MemoryFile memory)
open Text (bytesOf)

variable {file id : String} {now : Instant} {command : Command} {d : TestCase}
  {cs ds : List TestCase} {s : MemoryFile}

theorem map_reread_of_isFit (h : ∀ c ∈ cs, IsFit c) : cs.map reread = cs :=
  (List.map_congr_left fun c hc => reread_eq_self_iff.mpr (h c hc)).trans cs.map_id

theorem findIdx_append_cons {before after : List TestCase} {c : TestCase}
    (hbefore : ∀ e ∈ before, e.id ≠ id) (hc : c.id = id) :
    (before ++ c :: after).findIdx (·.id == id) = before.length := by
  have hnone : before.findIdx (·.id == id) = before.length :=
    List.findIdx_eq_length.mpr fun e he => by simpa using hbefore e he
  simp [List.findIdx_append, hnone, List.findIdx_cons, hc]

theorem getElem?_append_cons_of_ne {before after : List TestCase} {c d : TestCase} {j : ℕ}
    (hj : j ≠ before.length) : (before ++ d :: after)[j]? = (before ++ c :: after)[j]? := by
  rcases Nat.lt_or_gt_of_ne hj with hlt | hgt
  · rw [List.getElem?_append_left hlt, List.getElem?_append_left hlt]
  · obtain ⟨k, rfl⟩ := Nat.exists_eq_add_of_lt hgt
    rw [List.getElem?_append_right (by omega), List.getElem?_append_right (by omega),
      show before.length + k + 1 - before.length = k + 1 by omega]
    rfl

theorem forall_mem_append_cons_iff {P : TestCase → Prop} {before after : List TestCase}
    {c d : TestCase} :
    (∀ e ∈ before ++ d :: after, P e) ↔
      P d ∧ ∀ j, j ≠ before.length → ∀ e ∈ (before ++ c :: after)[j]?, P e := by
  constructor
  · intro h
    refine ⟨h d (by simp), fun j hj e he => h e ?_⟩
    rw [← getElem?_append_cons_of_ne hj] at he
    exact List.mem_of_getElem? he
  · rintro ⟨hd, hothers⟩ e he
    obtain ⟨j, hj⟩ := List.mem_iff_getElem?.mp he
    by_cases hplace : j = before.length
    · have hde : d = e := by simpa [hplace] using hj
      exact hde ▸ hd
    · rw [getElem?_append_cons_of_ne hplace] at hj
      exact hothers j hplace e hj

/-- What is loaded after a command: all test cases as before, but the changed one as its row gives
it. -/
theorem result_load_after_command (hload : (load memory file s).result = .ok cs)
    (hcommand : ((gateway memory file now).command command id s).result = .ok d) :
    ∃ before c after, cs = before ++ c :: after ∧ (∀ e ∈ before, e.id ≠ id) ∧ c.id = id ∧
      IsFit c ∧ checkLabels command = .ok () ∧ command.run now c = .ok d ∧
        ∀ ds, (load memory file ((gateway memory file now).command command id s).state).result =
            .ok ds ↔
          (∀ e ∈ before ++ d :: after, e.HasStorableTime) ∧ ds = before ++ reread d :: after := by
  obtain ⟨hrefusal, cs', written, hload', hchange⟩ := result_runCommand_eq_ok_iff.mp hcommand
  obtain rfl : cs = cs' := Except.ok.inj (hload.symm.trans hload')
  obtain ⟨hlabels, before, c, after, rfl, hbefore, hc, hrun, rfl⟩ := changedBy_eq_ok_iff.mp hchange
  have hfit := isFit_of_load hload
  refine ⟨before, c, after, rfl, hbefore, hc, hfit c (by simp), hlabels, hrun, fun ds => ?_⟩
  change (load memory file (runCommand memory file now command id s).state).result = _ ↔ _
  rw [state_runCommand_of_ok hrefusal hload hchange, result_load_encode_eq_ok_iff,
    List.map_append, List.map_cons, map_reread_of_isFit fun e he => hfit e (by simp [he]),
    map_reread_of_isFit fun e he => hfit e (by simp [he])]

/-- A command keeps the number, the ids and the places of all test cases, and every field of each of
them but the first with its id. -/
theorem command_keeps_others (hload : (load memory file s).result = .ok cs)
    (hcommand : ((gateway memory file now).command command id s).result = .ok d)
    (hreload : (load memory file ((gateway memory file now).command command id s).state).result =
      .ok ds) :
    ds.length = cs.length ∧ ds.map TestCase.id = cs.map TestCase.id ∧
      ∀ j, j ≠ cs.findIdx (·.id == id) → ds[j]? = cs[j]? := by
  obtain ⟨before, c, after, rfl, hbefore, hc, hfit, _, hrun, hafter⟩ :=
    result_load_after_command hload hcommand
  obtain ⟨_, rfl⟩ := (hafter ds).mp hreload
  have hid : (reread d).id = c.id := by
    change Text.trim d.id = c.id
    rw [Command.id_of_run hrun]
    exact hfit.id
  refine ⟨by simp, by simp [hid], fun j hj => ?_⟩
  rw [findIdx_append_cons hbefore hc] at hj
  exact getElem?_append_cons_of_ne hj

/-- A sheet with its columns in another order, a shared id, and marks and blanks in its cells. -/
def sharedIdSheet : MemoryFile where
  content := bytesOf
    "title,id,status,labels\n Login ,t1, ACTIVE ,x; y;\n\"a\n\"\"b\"\"\",t1,draft,\"p;q\"\n"
  refusal := none
  writes := 0

def sharedIdCases : List TestCase := [
  ⟨"t1", "Login", .active, none, ["x", "y"], none⟩,
  ⟨"t1", "a\n\"b\"", .draft, none, ["p", "q"], none⟩]

theorem load_sharedIdSheet :
    (load memory "cases.csv" sharedIdSheet).result = .ok sharedIdCases := by
  decide +kernel

theorem deactivation_keeps_others_of_shared_id :
    ∃ (d : TestCase) (ds : List TestCase),
      ((gateway memory "cases.csv" (.startOfYear 2024)).command .deactivate "t1"
        sharedIdSheet).result = .ok d ∧
      (load memory "cases.csv" ((gateway memory "cases.csv" (.startOfYear 2024)).command
        .deactivate "t1" sharedIdSheet).state).result = .ok ds ∧
      ds.length = sharedIdCases.length ∧ ds.map TestCase.id = sharedIdCases.map TestCase.id ∧
        ∀ j, j ≠ sharedIdCases.findIdx (·.id == "t1") → ds[j]? = sharedIdCases[j]? := by
  let d : TestCase := ⟨"t1", "Login", .draft, none, ["x", "y"], some (.startOfYear 2024)⟩
  have hcommand : ((gateway memory "cases.csv" (.startOfYear 2024)).command .deactivate "t1"
      sharedIdSheet).result = .ok d := by
    decide +kernel
  have hreload : (load memory "cases.csv" ((gateway memory "cases.csv" (.startOfYear 2024)).command
      .deactivate "t1" sharedIdSheet).state).result = .ok (d :: sharedIdCases.tail) := by
    decide +kernel
  exact ⟨d, _, hcommand, hreload, command_keeps_others load_sharedIdSheet hcommand hreload⟩

theorem findCase_eq_ok_iff : findCase id cs = .ok d ↔ cs.find? (·.id == id) = some d := by
  rw [findCase]
  cases cs.find? (·.id == id) <;> simp

theorem result_get_eq_ok_iff :
    ((gateway memory file now).get id s).result = .ok d ↔
      ∃ cs, (load memory file s).result = .ok cs ∧ cs.find? (·.id == id) = some d := by
  simp only [gateway, Action.result_bind_eq_ok_iff, Action.result_ofExcept, findCase_eq_ok_iff]

/-- The test case that was changed is still the first with its id when it is read again. -/
theorem find?_reread_of_run {before : List TestCase} {c : TestCase} (after : List TestCase)
    (hbefore : ∀ e ∈ before, e.id ≠ id) (hc : c.id = id) (hfit : IsFit c)
    (hrun : command.run now c = .ok d) :
    (before ++ reread d :: after).find? (·.id == id) = some (reread d) := by
  have hid : (reread d).id = id := by
    change Text.trim d.id = id
    rw [Command.id_of_run hrun, ← hc]
    exact hfit.id
  have hnone : before.find? (·.id == id) = none :=
    List.find?_eq_none.mpr fun e he => by simpa using hbefore e he
  simp [List.find?_append, hnone, hid]

/-- A command's answer is what is read next exactly when the texts it set come back as they are, its
time can be stored, and so can the times of all other test cases. -/
theorem get_after_command_iff {later : Instant} (hload : (load memory file s).result = .ok cs)
    (hcommand : ((gateway memory file now).command command id s).result = .ok d) :
    ((gateway memory file later).get id
        ((gateway memory file now).command command id s).state).result = .ok d ↔
      command.HasFitTexts ∧ now.HasFourDigitYear ∧
        ∀ j, j ≠ cs.findIdx (·.id == id) → ∀ e ∈ cs[j]?, e.HasStorableTime := by
  obtain ⟨before, c, after, rfl, hbefore, hc, hfit, hlabels, hrun, hafter⟩ :=
    result_load_after_command hload hcommand
  have hfind := find?_reread_of_run after hbefore hc hfit hrun
  rw [result_get_eq_ok_iff, findIdx_append_cons hbefore hc, ← isFit_iff_of_run hfit hlabels hrun,
    ← reread_eq_self_iff, ← Command.hasStorableTime_iff_of_run hrun, ← forall_mem_append_cons_iff]
  constructor
  · rintro ⟨ds, hreload, hget⟩
    obtain ⟨hstorable, rfl⟩ := (hafter ds).mp hreload
    rw [hfind] at hget
    exact ⟨Option.some.inj hget, hstorable⟩
  · rintro ⟨hsame, hstorable⟩
    rw [hsame] at hfind hafter
    exact ⟨_, (hafter _).mpr ⟨hstorable, rfl⟩, hfind⟩

/-- The new title and priority of the first of two rows with one id are read back. -/
theorem get_after_update_of_shared_id :
    ∃ d : TestCase,
      ((gateway memory "cases.csv" (.startOfYear 2024)).command
        (.update ⟨some "Sign in", some "high", none⟩) "t1" sharedIdSheet).result = .ok d ∧
      ((gateway memory "cases.csv" (.startOfYear 2024)).get "t1"
        ((gateway memory "cases.csv" (.startOfYear 2024)).command
          (.update ⟨some "Sign in", some "high", none⟩) "t1" sharedIdSheet).state).result =
        .ok d := by
  let d : TestCase :=
    ⟨"t1", "Sign in", .active, some "high", ["x", "y"], some (.startOfYear 2024)⟩
  have hcommand : ((gateway memory "cases.csv" (.startOfYear 2024)).command
      (.update ⟨some "Sign in", some "high", none⟩) "t1" sharedIdSheet).result = .ok d := by
    decide +kernel
  have hothers : ∀ e ∈ sharedIdCases, e.HasStorableTime := by decide
  refine ⟨d, hcommand, (get_after_command_iff load_sharedIdSheet hcommand).mpr ⟨?_, ?_, ?_⟩⟩
  · decide +kernel
  · decide
  · exact fun _ _ e he => hothers e (List.mem_of_getElem? he)

/-- A title with blanks around it is answered as it was given and read without them. -/
theorem get_after_command_not_always : ¬∀ (file id : String) (now later : Instant)
    (command : Command) (s : MemoryFile) (cs : List TestCase) (d : TestCase),
      (load memory file s).result = .ok cs →
        ((gateway memory file now).command command id s).result = .ok d →
          ((gateway memory file later).get id
            ((gateway memory file now).command command id s).state).result = .ok d := by
  intro h
  have hget := h "cases.csv" "t1" (.startOfYear 2024) (.startOfYear 2024)
    (.update ⟨some " Sign in ", none, none⟩) sharedIdSheet sharedIdCases
    ⟨"t1", " Sign in ", .active, none, ["x", "y"], some (.startOfYear 2024)⟩ load_sharedIdSheet
    (by decide +kernel)
  exact absurd hget (by decide +kernel)

end CaseRouting.Sheet
