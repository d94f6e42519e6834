import CaseRouting.Proofs.Sheet.Effect

/-!
# New labels for a test case of a sheet

The labels of an update are looked at twice: by the sheet before it is read, and by the test case
that is changed. Both together let pass exactly the lists of labels that come back from the cell they
are written to.
-/

namespace CaseRouting.Sheet

open Files (MemoryFile memory)
open Text (bytesOf)

variable {file id : String} {now : Instant} {command : Command} {c d : TestCase}
  {cs : List TestCase} {s : MemoryFile} {labels : List String}

def relabel (labels : List String) : Command := .update ⟨none, none, some labels⟩

def labelsReadBack (labels : List String) : Except Nat (List String) := do
  let cell ← cellText (bytesOf (cellOfLabels labels))
  pure (((filled? (some cell)).map labelsOfCell).getD [])

theorem labelsReadBack_eq_ok_iff :
    labelsReadBack labels = .ok labels ↔ ∀ l ∈ labels, IsFitLabel l := by
  rw [labelsReadBack, cellText_bytesOf, ok_bind, labelsOfCell_filled, pure_eq_ok, Except.ok.injEq]
  exact labelsOfCell_trim_cellOfLabels_iff

/-- The check for the sheet and the check of the test case, label by label. -/
theorem relabel_passes_iff (now : Instant) (c : TestCase) (labels : List String) :
    (checkLabels (relabel labels) = .ok () ∧ ∃ d, (relabel labels).run now c = .ok d) ↔
      ∀ l ∈ labels, IsFitLabel l := by
  have hsheet : checkLabels (relabel labels) = .ok () ↔
      ∀ l ∈ labels, labelSeparator ∉ l.toList ∧ Text.IsTrimmed l :=
    checkLabels_update_eq_ok_iff
  have hcase : (∃ d, (relabel labels).run now c = .ok d) ↔
      ∀ l ∈ labels, Text.isBlankText l = false := by
    simp only [relabel, Command.run, TestCase.apply_eq_ok_iff, exists_and_left, exists_eq,
      and_true, TestCase.hasBlankTitle, TestCase.hasBlankLabel, Option.any_none, Option.any_some,
      true_and, List.any_eq_false, Bool.not_eq_true]
  rw [hsheet, hcase, ← forall₂_and]
  exact forall₂_congr fun l _ => isFitLabel_iff_passes.symm

/-- A command is carried out on a list of test cases if nothing speaks against it in the command
itself or in the first of them with its id. -/
theorem exists_changedBy_iff (hfirst : cs.find? (·.id == id) = some c) :
    (∃ d ds, changedBy now command id cs = .ok (d, ds)) ↔
      checkLabels command = .ok () ∧ ∃ d, command.run now c = .ok d := by
  simp only [changedBy_eq_ok_iff]
  constructor
  · rintro ⟨d, _, hlabels, before, e, after, rfl, hbefore, he, hrun, _⟩
    have hnone : before.find? (·.id == id) = none :=
      List.find?_eq_none.mpr fun x hx => by simpa using hbefore x hx
    have heq : e = c := by simpa [List.find?_append, hnone, he] using hfirst
    exact ⟨hlabels, d, heq ▸ hrun⟩
  · rintro ⟨hlabels, d, hrun⟩
    obtain ⟨hc, before, after, rfl, hbefore⟩ := List.find?_eq_some_iff_append.mp hfirst
    exact ⟨d, _, hlabels, before, c, after, rfl, fun e he => by simpa using hbefore e he,
      eq_of_beq hc, hrun, rfl⟩

/-- A sheet that takes writes carries a command out unless the check of the labels or the first test
case with the id refuses it. -/
theorem exists_result_command_eq_ok_iff (hrefusal : s.refusal = none)
    (hload : (load memory file s).result = .ok cs) (hfirst : cs.find? (·.id == id) = some c) :
    (∃ d, ((gateway memory file now).command command id s).result = .ok d) ↔
      checkLabels command = .ok () ∧ ∃ d, command.run now c = .ok d := by
  rw [← exists_changedBy_iff hfirst]
  refine exists_congr fun d => ?_
  change (runCommand memory file now command id s).result = .ok d ↔ _
  rw [result_runCommand_eq_ok_iff]
  constructor
  · rintro ⟨_, cs', ds, hload', hchange⟩
    obtain rfl : cs = cs' := Except.ok.inj (hload.symm.trans hload')
    exact ⟨ds, hchange⟩
  · rintro ⟨ds, hchange⟩
    exact ⟨hrefusal, cs, ds, hload, hchange⟩

/-- What a sheet that was relabelled gives as the labels, if it can be read. -/
theorem labels_after_relabel {ds : List TestCase} {e : TestCase}
    (hload : (load memory file s).result = .ok cs)
    (hcommand : ((gateway memory file now).command (relabel labels) id s).result = .ok d)
    (hreload : (load memory file
      ((gateway memory file now).command (relabel labels) id s).state).result = .ok ds)
    (hfirst : ds.find? (·.id == id) = some e) : e.labels = labels := by
  obtain ⟨before, c, after, rfl, hbefore, hc, hfit, hlabels, hrun, hafter⟩ :=
    result_load_after_command hload hcommand
  obtain ⟨_, rfl⟩ := (hafter ds).mp hreload
  have he : reread d = e :=
    Option.some.inj ((find?_reread_of_run after hbefore hc hfit hrun).symm.trans hfirst)
  have hpasses := (relabel_passes_iff now c labels).mp ⟨hlabels, d, hrun⟩
  have hgiven : d.labels = labels := by
    rw [(TestCase.apply_eq_ok_iff.mp hrun).2.2]
    rfl
  rw [← he, labels_reread, hgiven]
  exact labelsOfCell_trim_cellOfLabels_iff.mpr hpasses

/-- New labels pass the checks of the sheet and of any test case exactly if they come back from
their cell. So a sheet that takes writes gives the first test case with the id these labels exactly
if it can hold them, and they are then what is read. -/
theorem relabel_accepted_iff_read_back (now : Instant) (labels : List String) :
    (∀ c : TestCase,
      (checkLabels (relabel labels) = .ok () ∧ ∃ d, (relabel labels).run now c = .ok d) ↔
        labelsReadBack labels = .ok labels) ∧
    ∀ (file id : String) (s : MemoryFile) (cs : List TestCase), s.refusal = none →
      (load memory file s).result = .ok cs → (∃ c ∈ cs, c.id = id) →
        let done := (gateway memory file now).command (relabel labels) id s
        ((∃ d, done.result = .ok d) ↔ labelsReadBack labels = .ok labels) ∧
          ∀ d ds e, done.result = .ok d → (load memory file done.state).result = .ok ds →
            ds.find? (·.id == id) = some e → e.labels = labels := by
  have hpasses (c : TestCase) :
      (checkLabels (relabel labels) = .ok () ∧ ∃ d, (relabel labels).run now c = .ok d) ↔
        labelsReadBack labels = .ok labels :=
    (relabel_passes_iff now c labels).trans labelsReadBack_eq_ok_iff.symm
  refine ⟨hpasses, fun file id s cs hrefusal hload hid => ⟨?_, fun d ds e => ?_⟩⟩
  · have hsome : (cs.find? (·.id == id)).isSome := by simpa using hid
    obtain ⟨c, hfirst⟩ := Option.isSome_iff_exists.mp hsome
    exact (exists_result_command_eq_ok_iff hrefusal hload hfirst).trans (hpasses c)
  · exact labels_after_relabel hload

/-- Two labels, of which the second has a blank that is no end of it, are taken over by the first of
two rows with one id. -/
theorem relabel_accepted_sharedIdSheet :
    ∃ d, ((gateway memory "cases.csv" (.startOfYear 2024)).command
      (relabel ["smoke", "slow\u00a0test"]) "t1" sharedIdSheet).result = .ok d :=
  ((relabel_accepted_iff_read_back (.startOfYear 2024) ["smoke", "slow\u00a0test"]).2 "cases.csv"
    "t1" sharedIdSheet sharedIdCases rfl load_sharedIdSheet
    ⟨_, List.mem_cons_self, rfl⟩).1.mpr (by decide +kernel)

end CaseRouting.Sheet
