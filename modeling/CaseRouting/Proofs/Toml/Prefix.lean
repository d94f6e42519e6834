import CaseRouting.Toml.Reader
import Mathlib.Data.List.TakeWhile
import Mathlib.Tactic

/-!
# Reading whole lines in front of other text

What is read from whole lines does not depend on the text behind them, and reading never looks past
the line break at their end. This holds of single characters, and is kept when readings follow each
other, are chosen between or come after blanks. So it is shown of every part of a settings text by
saying what the part is made of.
-/

namespace CaseRouting.Toml

variable {c : Char} {cs rest : List Char} {p : Char → Bool} {n : ℕ}

/-! ## Whole lines -/

def EndsLine (cs : List Char) : Prop := ['\n'] <:+ cs

instance (cs : List Char) : Decidable (EndsLine cs) := inferInstanceAs (Decidable (['\n'] <:+ cs))

namespace EndsLine

theorem ne_nil (h : EndsLine cs) : cs ≠ [] := by
  rintro rfl
  exact absurd (List.suffix_nil.mp h) (List.cons_ne_nil _ _)

theorem mem (h : EndsLine cs) : '\n' ∈ cs := h.subset List.mem_cons_self

theorem of_suffix (h : EndsLine cs) (hsuffix : rest <:+ cs) (hne : rest ≠ []) : EndsLine rest :=
  List.suffix_of_suffix_length_le h hsuffix (List.length_pos_iff.mpr hne)

theorem tail (h : EndsLine (c :: rest)) (hc : c ≠ '\n') : EndsLine rest := by
  rcases List.suffix_cons_iff.mp h with heq | hsuffix
  · exact absurd (List.cons.inj heq).1.symm hc
  · exact hsuffix

theorem dropWhile (h : EndsLine cs) (hp : p '\n' = false) : EndsLine (cs.dropWhile p) := by
  refine h.of_suffix (List.dropWhile_suffix p) fun hnil => ?_
  rw [List.dropWhile_eq_nil_iff] at hnil
  exact absurd (hnil _ h.mem) (by simp [hp])

theorem dropWhile_append (h : EndsLine cs) (hp : p '\n' = false) (more : List Char) :
    (cs ++ more).dropWhile p = cs.dropWhile p ++ more := by
  rw [List.dropWhile_append, if_neg]
  simpa using (h.dropWhile hp).ne_nil

theorem takeWhile_append (h : EndsLine cs) (hp : p '\n' = false) (more : List Char) :
    (cs ++ more).takeWhile p = cs.takeWhile p := by
  have hne : (cs.takeWhile p).length ≠ cs.length := by
    intro hlength
    have hall := List.takeWhile_eq_self_iff.mp (List.takeWhile_prefix p |>.eq_of_length hlength)
    exact absurd (hall _ h.mem) (by simp [hp])
  rw [List.takeWhile_append, if_neg hne]

end EndsLine

theorem drop_takeWhile (p : Char → Bool) (cs : List Char) :
    cs.drop (cs.takeWhile p).length = cs.dropWhile p := by
  calc cs.drop (cs.takeWhile p).length
    _ = (cs.takeWhile p ++ cs.dropWhile p).drop (cs.takeWhile p).length := by
      rw [List.takeWhile_append_dropWhile]
    _ = cs.dropWhile p := List.drop_left

/-! ## Steady readings -/

/-- Which text may be left of a text by reading within so many steps. -/
abbrev Reading := ℕ → List Char → List Char → Prop

/-- Reading takes from the front. If the text consists of whole lines, then some of them is left,
and reading goes the same way, with as many steps or more, whatever comes behind. -/
structure SteadyAt (R : Reading) (n : ℕ) : Prop where
  suffix : ∀ {cs rest}, R n cs rest → rest <:+ cs
  ne_nil : ∀ {cs rest}, R n cs rest → EndsLine cs → rest ≠ []
  append : ∀ {cs rest}, R n cs rest → EndsLine cs → ∀ m, n ≤ m → ∀ more,
    R m (cs ++ more) (rest ++ more)

namespace SteadyAt

variable {R S : Reading}

theorem endsLine (hR : SteadyAt R n) (h : R n cs rest) (hends : EndsLine cs) : EndsLine rest :=
  hends.of_suffix (hR.suffix h) (hR.ne_nil h hends)

theorem of_forall_not (h : ∀ cs rest, ¬R n cs rest) : SteadyAt R n where
  suffix := fun hread => absurd hread (h _ _)
  ne_nil := fun hread => absurd hread (h _ _)
  append := fun hread => absurd hread (h _ _)

theorem of_iff (h : ∀ m cs rest, R m cs rest ↔ S m cs rest) (hS : SteadyAt S n) : SteadyAt R n where
  suffix := fun hread => hS.suffix ((h _ _ _).mp hread)
  ne_nil := fun hread => hS.ne_nil ((h _ _ _).mp hread)
  append := fun hread hends m hm more =>
    (h _ _ _).mpr (hS.append ((h _ _ _).mp hread) hends m hm more)

/-- One step of a reading is steady if what it leads to is. -/
theorem succ (h : ∀ m cs rest, R (m + 1) cs rest ↔ S m cs rest) (hS : SteadyAt S n) :
    SteadyAt R (n + 1) where
  suffix := fun hread => hS.suffix ((h _ _ _).mp hread)
  ne_nil := fun hread => hS.ne_nil ((h _ _ _).mp hread)
  append := by
    intro cs rest hread hends m hm more
    obtain ⟨m, rfl⟩ := Nat.exists_eq_add_of_le' hm
    exact (h _ _ _).mpr (hS.append ((h _ _ _).mp hread) hends _ (Nat.le_add_left n m) more)

theorem comp (hR : SteadyAt R n) (hS : SteadyAt S n) :
    SteadyAt (fun m cs rest => ∃ mid, R m cs mid ∧ S m mid rest) n where
  suffix := by
    rintro cs rest ⟨mid, hmid, hrest⟩
    exact (hS.suffix hrest).trans (hR.suffix hmid)
  ne_nil := by
    rintro cs rest ⟨mid, hmid, hrest⟩ hends
    exact hS.ne_nil hrest (hR.endsLine hmid hends)
  append := by
    rintro cs rest ⟨mid, hmid, hrest⟩ hends m hm more
    exact ⟨mid ++ more, hR.append hmid hends m hm more,
      hS.append hrest (hR.endsLine hmid hends) m hm more⟩

theorem or (hR : SteadyAt R n) (hS : SteadyAt S n) :
    SteadyAt (fun m cs rest => R m cs rest ∨ S m cs rest) n where
  suffix := fun hread => hread.elim hR.suffix hS.suffix
  ne_nil := fun hread => hread.elim hR.ne_nil hS.ne_nil
  append := fun hread hends m hm more => hread.imp (fun h => hR.append h hends m hm more)
    fun h => hS.append h hends m hm more

theorem «exists» {ι : Sort*} {T : ι → Reading} (hT : ∀ i, SteadyAt (T i) n) :
    SteadyAt (fun m cs rest => ∃ i, T i m cs rest) n where
  suffix := fun ⟨i, hread⟩ => (hT i).suffix hread
  ne_nil := fun ⟨i, hread⟩ => (hT i).ne_nil hread
  append := fun ⟨i, hread⟩ hends m hm more => ⟨i, (hT i).append hread hends m hm more⟩

theorem and {P : Prop} (hR : P → SteadyAt R n) : SteadyAt (fun m cs rest => P ∧ R m cs rest) n where
  suffix := fun ⟨hP, hread⟩ => (hR hP).suffix hread
  ne_nil := fun ⟨hP, hread⟩ => (hR hP).ne_nil hread
  append := fun ⟨hP, hread⟩ hends m hm more => ⟨hP, (hR hP).append hread hends m hm more⟩

/-- A condition on the text in front, if lines that fulfil it do so whatever comes behind. -/
theorem ahead {Q : List Char → Prop} (hQ : ∀ cs, EndsLine cs → Q cs → ∀ more, Q (cs ++ more))
    (hR : SteadyAt R n) : SteadyAt (fun m cs rest => Q cs ∧ R m cs rest) n where
  suffix := fun hread => hR.suffix hread.2
  ne_nil := fun hread => hR.ne_nil hread.2
  append := fun hread hends m hm more =>
    ⟨hQ _ hends hread.1 more, hR.append hread.2 hends m hm more⟩

theorem ofLength {k : ℕ → ℕ} (hk : Monotone k) (hR : ∀ n, SteadyAt R n) (n : ℕ) :
    SteadyAt (fun _ cs rest => R (k cs.length) cs rest) n where
  suffix := fun hread => (hR _).suffix hread
  ne_nil := fun hread => (hR _).ne_nil hread
  append := fun hread hends m hm more =>
    (hR _).append hread hends _ (hk (by simp)) more

end SteadyAt

theorem steadyAt_eq : SteadyAt (fun _ cs rest => cs = rest) n where
  suffix := by
    rintro cs _ rfl
    exact List.suffix_rfl
  ne_nil := by
    rintro cs _ rfl hends
    exact hends.ne_nil
  append := by
    rintro cs _ rfl hends m hm more
    rfl

theorem steadyAt_line {text : List Char} (htext : '\n' ∉ text) :
    SteadyAt (fun _ cs rest => cs = text ++ rest) n where
  suffix := by
    rintro _ rest rfl
    exact List.suffix_append text rest
  ne_nil := by
    rintro _ rest rfl hends hnil
    rw [hnil, List.append_nil] at hends
    exact htext hends.mem
  append := by
    rintro _ rest rfl hends m hm more
    exact List.append_assoc text rest more

theorem steadyAt_cons (hc : c ≠ '\n') : SteadyAt (fun _ cs rest => cs = c :: rest) n := by
  have hline : '\n' ∉ [c] := by simpa using hc.symm
  exact steadyAt_line hline

/-- A line break may be read if text is left behind it. -/
theorem steadyAt_text (text : List Char) :
    SteadyAt (fun _ cs rest => rest ≠ [] ∧ cs = text ++ rest) n where
  suffix := by
    rintro _ rest ⟨-, rfl⟩
    exact List.suffix_append text rest
  ne_nil := fun hread _ => hread.1
  append := by
    rintro _ rest ⟨hrest, rfl⟩ hends m hm more
    exact ⟨by simp [hrest], List.append_assoc text rest more⟩

theorem steadyAt_takeWhile (hp : p '\n' = false) (w : List Char) :
    SteadyAt (fun _ cs rest => cs.takeWhile p = w ∧ cs.dropWhile p = rest) n where
  suffix := by
    rintro cs _ ⟨-, rfl⟩
    exact List.dropWhile_suffix p
  ne_nil := by
    rintro cs _ ⟨-, rfl⟩ hends
    exact (hends.dropWhile hp).ne_nil
  append := by
    rintro cs _ ⟨rfl, rfl⟩ hends m hm more
    exact ⟨hends.takeWhile_append hp more, hends.dropWhile_append hp more⟩

/-- Other text may follow a text that does not begin in this way. -/
theorem EndsLine.not_prefix_append {text : List Char} (htext : '\n' ∉ text) (hends : EndsLine cs)
    (h : ¬text <+: cs) (more : List Char) : ¬text <+: cs ++ more := by
  intro happend
  rcases List.prefix_or_prefix_of_prefix happend (List.prefix_append cs more) with hcs | hcs
  · exact h hcs
  · exact htext (hcs.subset hends.mem)

/-! ## Blanks -/

theorem SteadyAt.after {f : List Char → List Char} {R : Reading}
    (hf : SteadyAt (fun _ cs rest => f cs = rest) n) (hR : SteadyAt R n) :
    SteadyAt (fun m cs rest => R m (f cs) rest) n :=
  .of_iff (fun m cs rest => by simp) (hf.comp hR)

/-- If nothing is read from nothing, then skipping must leave something. -/
theorem SteadyAt.after_of_ne_nil {f : List Char → List Char} {R : Reading}
    (hf : SteadyAt (fun _ cs rest => rest ≠ [] ∧ f cs = rest) n)
    (hnil : ∀ m rest, ¬R m [] rest) (hR : SteadyAt R n) :
    SteadyAt (fun m cs rest => R m (f cs) rest) n := by
  refine .of_iff (fun m cs rest => ?_) (hf.comp hR)
  constructor
  · intro hread
    have hne : f cs ≠ [] := fun hfs => hnil m rest (hfs ▸ hread)
    exact ⟨f cs, ⟨hne, rfl⟩, hread⟩
  · rintro ⟨mid, ⟨-, rfl⟩, hread⟩
    exact hread

theorem steadyAt_dropWhile (hp : p '\n' = false) :
    SteadyAt (fun _ cs rest => cs.dropWhile p = rest) n :=
  .of_iff (fun m cs rest => by simp) (.exists fun w => steadyAt_takeWhile hp w)

theorem steadyAt_skipSpaces : SteadyAt (fun _ cs rest => skipSpaces cs = rest) n :=
  steadyAt_dropWhile rfl

theorem skipBlank_eq_iff : skipBlank cs = rest ↔
    (∃ mid, skipSpaces cs = '#' :: mid ∧ mid.dropWhile isPlain = rest) ∨
      ¬['#'] <+: skipSpaces cs ∧ skipSpaces cs = rest := by
  rw [skipBlank]
  split
  · next mid hmid => simp [hmid]
  · next hother =>
    have hother (mid : List Char) : skipSpaces cs ≠ '#' :: mid := hother mid
    have hplain : ¬['#'] <+: skipSpaces cs := fun ⟨mid, hmid⟩ => hother mid hmid.symm
    simp [hplain, hother]

theorem steadyAt_skipBlank : SteadyAt (fun _ cs rest => skipBlank cs = rest) n := by
  have hcomment : SteadyAt (fun _ cs rest => ∃ mid, cs = '#' :: mid ∧ mid.dropWhile isPlain = rest)
      n := (steadyAt_cons (by decide)).comp (steadyAt_dropWhile rfl)
  have hother : SteadyAt (fun _ cs rest => ¬['#'] <+: cs ∧ cs = rest) n :=
    steadyAt_eq.ahead fun cs hends h => hends.not_prefix_append (by decide) h
  exact .of_iff (fun _ _ _ => skipBlank_eq_iff) (steadyAt_skipSpaces.after (hcomment.or hother))

theorem skipBlank_suffix (cs : List Char) : skipBlank cs <:+ cs :=
  (steadyAt_skipBlank (n := 0)).suffix rfl

theorem lineBreak?_eq_some_iff :
    lineBreak? cs = some rest ↔ cs = '\n' :: rest ∨ cs = '\r' :: '\n' :: rest := by
  unfold lineBreak?
  split
  · simp
  · simp
  · next hfeed hreturn =>
    exact iff_of_false (by simp) (by rintro (rfl | rfl) <;> simp at hfeed hreturn)

theorem lineBreak?_suffix (h : lineBreak? cs = some rest) : rest <:+ cs := by
  rcases lineBreak?_eq_some_iff.mp h with rfl | rfl
  · exact List.suffix_cons _ _
  · exact List.suffix_append ['\r', '\n'] rest

theorem lineBreak?_length (h : lineBreak? cs = some rest) : rest.length < cs.length := by
  rcases lineBreak?_eq_some_iff.mp h with rfl | rfl <;> simp

theorem lineBreak?_append (h : EndsLine cs) (more : List Char) :
    lineBreak? (cs ++ more) = (lineBreak? cs).map (· ++ more) := by
  rcases cs with - | ⟨c, - | ⟨d, rest⟩⟩
  · exact absurd rfl h.ne_nil
  · obtain rfl : '\n' = c := by simpa using h.mem
    rfl
  · by_cases hc : c = '\n'
    · subst hc
      rfl
    · by_cases hd : c = '\r' ∧ d = '\n'
      · obtain ⟨rfl, rfl⟩ := hd
        rfl
      · have hnone (tail : List Char) : lineBreak? (c :: d :: tail) = none := by
          rw [lineBreak?]
          · exact fun _ h => hc (List.cons.inj h).1
          · exact fun _ h => hd ⟨(List.cons.inj h).1, (List.cons.inj (List.cons.inj h).2).1⟩
        rw [List.cons_append, List.cons_append, hnone, hnone]
        rfl

/-! ### Lines without statements -/

theorem skipLines_suffix (n : ℕ) (cs : List Char) : skipLines n cs <:+ cs := by
  induction n generalizing cs with
  | zero => exact List.suffix_rfl
  | succ n ih =>
    rw [skipLines]
    split
    · next rest hbreak =>
      exact (ih rest).trans ((lineBreak?_suffix hbreak).trans (skipBlank_suffix cs))
    · exact skipBlank_suffix cs

theorem skipLines_of_length_lt {m n : ℕ} (hm : cs.length < m) (hn : cs.length < n) :
    skipLines m cs = skipLines n cs := by
  induction m generalizing n cs with
  | zero => omega
  | succ m ih =>
    cases n with
    | zero => omega
    | succ n =>
      rw [skipLines, skipLines]
      have hblank := (skipBlank_suffix cs).length_le
      split
      · next rest hbreak =>
        have hlength := lineBreak?_length hbreak
        exact ih (by omega) (by omega)
      · rfl

theorem skipAllLines_eq (cs : List Char) :
    skipAllLines cs = match lineBreak? (skipBlank cs) with
      | some rest => skipAllLines rest
      | none => skipBlank cs := by
  rw [skipAllLines, skipLines]
  have hblank := (skipBlank_suffix cs).length_le
  cases hbreak : lineBreak? (skipBlank cs) with
  | none => rfl
  | some rest =>
    have hlength := lineBreak?_length hbreak
    exact skipLines_of_length_lt (by omega) (by omega)

theorem skipAllLines_suffix (cs : List Char) : skipAllLines cs <:+ cs := skipLines_suffix _ cs

theorem skipAllLines_append (hends : EndsLine cs) (hne : skipAllLines cs ≠ []) (more : List Char) :
    skipAllLines (cs ++ more) = skipAllLines cs ++ more := by
  induction hlength : cs.length using Nat.strong_induction_on generalizing cs with
  | _ n ih =>
    have hblank := (steadyAt_skipBlank (n := 0)).endsLine rfl hends
    have happend := (steadyAt_skipBlank (n := 0)).append rfl hends 0 le_rfl more
    rw [skipAllLines_eq] at hne
    rw [skipAllLines_eq, skipAllLines_eq cs, happend, lineBreak?_append hblank]
    cases hbreak : lineBreak? (skipBlank cs) with
    | none => rfl
    | some rest =>
      rw [hbreak] at hne
      dsimp only [Option.map_some] at hne ⊢
      have hrest : rest ≠ [] := by
        rintro rfl
        exact hne (List.suffix_nil.mp (skipAllLines_suffix []))
      have hlt := lineBreak?_length hbreak
      have hle := (skipBlank_suffix cs).length_le
      exact ih rest.length (by omega) (hblank.of_suffix (lineBreak?_suffix hbreak) hrest) hne rfl

theorem steadyAt_skipAllLines :
    SteadyAt (fun _ cs rest => rest ≠ [] ∧ skipAllLines cs = rest) n where
  suffix := by
    rintro cs _ ⟨-, rfl⟩
    exact skipAllLines_suffix cs
  ne_nil := fun hread _ => hread.1
  append := by
    rintro cs _ ⟨hne, rfl⟩ hends m hm more
    exact ⟨by simp [hne], skipAllLines_append hends hne more⟩

end CaseRouting.Toml
