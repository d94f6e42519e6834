import CaseRouting.Proofs.Toml.Values

/-!
# Settings text as a sequence of statements

A line makes a statement, which does not depend on what was read before: it opens a table, gives a
key its value, or does nothing. What is read from a text is what its statements make of it in their
order, and text behind whole lines is read from what these lines leave.
-/

namespace CaseRouting.Toml

variable {c : Char} {cs rest tail : List Char} {p q : Progress} {series : Bool} {n : ℕ}

inductive Statement where
  | nothing
  | header (series : Bool) (path : List String) (key : String)
  | setting (path : List String) (key : String) (d : Doc)

/-- What was read so far, after a further statement. -/
def Statement.apply (p : Progress) : Statement → Option Progress
  | .nothing => some p
  | .header series path key =>
    ((if series then openSeries else openTable) path key p.root).map (⟨·, path ++ [key]⟩)
  | .setting path key d => (assign p.header path key d p.root).map (⟨·, p.header⟩)

/-! ## Statements in a text -/

def opening (series : Bool) : List Char := if series then ['[', '['] else ['[']

def closing (series : Bool) : List Char := if series then [']', ']'] else [']']

/-- The text begins with the statement, and goes on with the rest. -/
def Statement.Begins : Statement → List Char → List Char → Prop
  | .nothing, cs, rest => (∀ c tail, skipSpaces cs = c :: tail → c ∈ ['#', '\n', '\r']) ∧
      skipSpaces cs = rest
  | .header series path key, cs, rest => ∃ tail, skipSpaces cs = opening series ++ tail ∧
      ∃ after, key? (tail.length + 1) tail = some ((path, key), after) ∧
        after = closing series ++ rest
  | .setting path key d, cs, rest => ∃ after,
      key? ((skipSpaces cs).length + 1) (skipSpaces cs) = some ((path, key), after) ∧
        ∃ before, after = '=' :: before ∧
          value? (2 * before.length + 2) deepest (skipSpaces before) = some (d, rest)

theorem begins_of_quoted {path : List String} {key w : String} (before : List Char)
    (hkey : key? ((skipSpaces cs).length + 1) (skipSpaces cs) = some ((path, key), '=' :: before))
    (hquoted : quotedText? (skipSpaces before) = some (w, rest)) :
    (Statement.setting path key (.ofText w)).Begins cs rest :=
  ⟨_, hkey, before, rfl, value?_succ_eq_some_iff.mpr (.inl ⟨w, rfl, hquoted⟩)⟩

theorem begins_of_word {path : List String} {key : String} {d : Doc} (before w : List Char)
    (hkey : key? ((skipSpaces cs).length + 1) (skipSpaces cs) = some ((path, key), '=' :: before))
    (hword : word (skipSpaces before) = (w, rest)) (hscalar : scalar? w = some d) :
    (Statement.setting path key d).Begins cs rest :=
  ⟨_, hkey, before, rfl, value?_of_word hscalar hword⟩

theorem steadyAt_begins (statement : Statement) : SteadyAt (fun _ => statement.Begins) n := by
  have hkey (key : List String × String) : SteadyAt (fun _ cs rest =>
      key? (cs.length + 1) cs = some (key, rest)) n :=
    .ofLength (k := (· + 1)) add_left_mono (fun n => steadyAt_key? n key) n
  cases statement with
  | nothing =>
    have hblank : SteadyAt (fun _ cs rest => (∀ c tail, cs = c :: tail → c ∈ ['#', '\n', '\r']) ∧
        cs = rest) n := by
      refine .ahead (fun cs hends h more => ?_) steadyAt_eq
      obtain ⟨d, tail, rfl⟩ := List.exists_cons_of_ne_nil hends.ne_nil
      intro c tail' heq
      rw [← (List.cons.inj heq).1]
      exact h d tail rfl
    exact steadyAt_skipSpaces.after hblank
  | header series path key =>
    have hopening : '\n' ∉ opening series := by cases series <;> decide
    have hclosing : '\n' ∉ closing series := by cases series <;> decide
    exact steadyAt_skipSpaces.after ((steadyAt_line hopening).comp
      ((hkey (path, key)).comp (steadyAt_line hclosing)))
  | setting path key d =>
    have hvalue (n : ℕ) : SteadyAt (fun m cs rest =>
        value? m deepest (skipSpaces cs) = some (d, rest)) n :=
      steadyAt_skipSpaces.after ((steadyAt_values n).1 deepest d)
    have hlong : Monotone (2 * · + 2) := fun _ _ hle => by dsimp only; omega
    exact steadyAt_skipSpaces.after
      ((hkey (path, key)).comp ((steadyAt_cons (by decide)).comp (.ofLength hlong hvalue n)))

theorem header?_of_key {path : List String} {key : String}
    (hkey : key? (cs.length + 1) cs = some ((path, key), closing series ++ rest)) (p : Progress) :
    header? series p cs = ((Statement.header series path key).apply p).map (·, rest) := by
  rw [header?, hkey]
  cases series with
  | false =>
    cases h : openTable path key p.root <;> simp [closing, Statement.apply, h]
  | true =>
    cases h : openSeries path key p.root <;> simp [closing, Statement.apply, h]

theorem exists_key_of_header? (h : header? series p cs = some (q, rest)) :
    ∃ path key, key? (cs.length + 1) cs = some ((path, key), closing series ++ rest) := by
  rw [header?] at h
  split at h
  · next path key after hkey =>
    refine ⟨path, key, hkey.trans ?_⟩
    dsimp only at h
    split at h
    · next after' root hclosed hopen =>
      obtain ⟨rfl, rfl⟩ := Prod.mk.inj (Option.some.inj h)
      split at hclosed
      · rw [Option.some.inj hclosed]
        rfl
      · rw [Option.some.inj hclosed]
        rfl
      · exact absurd hclosed (by simp)
    · exact absurd h (by simp)
  · exact absurd h (by simp)

theorem keyValue?_of_value {path : List String} {key : String} {before : List Char} {d : Doc}
    (hkey : key? (cs.length + 1) cs = some ((path, key), '=' :: before))
    (hvalue : value? (2 * before.length + 2) deepest (skipSpaces before) = some (d, rest))
    (p : Progress) :
    keyValue? p cs = ((Statement.setting path key d).apply p).map (·, rest) := by
  rw [keyValue?, hkey]
  simp only [hvalue]
  cases h : assign p.header path key d p.root <;> simp [Statement.apply, h]

theorem exists_value_of_keyValue? (h : keyValue? p cs = some (q, rest)) :
    ∃ path key before d, key? (cs.length + 1) cs = some ((path, key), '=' :: before) ∧
      value? (2 * before.length + 2) deepest (skipSpaces before) = some (d, rest) := by
  rw [keyValue?] at h
  split at h
  · next path key before hkey =>
    split at h
    · next d after hvalue =>
      obtain ⟨root, -, heq⟩ := Option.map_eq_some_iff.mp h
      obtain ⟨-, rfl⟩ := Prod.mk.inj heq
      exact ⟨path, key, before, d, hkey, hvalue⟩
    · exact absurd h (by simp)
  · exact absurd h (by simp)

theorem expression?_of_table (h : skipSpaces cs = '[' :: tail) (htail : ∀ more, tail ≠ '[' :: more)
    (p : Progress) : expression? p cs = header? false p tail := by
  rw [expression?, h]
  split
  · next heq => exact absurd (List.cons.inj heq).2 (htail _)
  · next heq => rw [(List.cons.inj heq).2]
  · next heq => exact absurd heq (List.cons_ne_nil _ _)
  · next hopen heq => exact absurd (List.cons.inj heq).1.symm hopen

theorem expression?_of_not_mem (h : skipSpaces cs = c :: tail) (hc : c ∉ ['[', '#', '\n', '\r'])
    (p : Progress) : expression? p cs = keyValue? p (c :: tail) := by
  simp only [List.mem_cons, List.not_mem_nil, or_false, not_or] at hc
  obtain ⟨hbracket, hcomment, hfeed, hreturn⟩ := hc
  rw [expression?, h]
  split
  · next heq => exact absurd (List.cons.inj heq).1 hbracket
  · next heq => exact absurd (List.cons.inj heq).1 hbracket
  · next heq => exact absurd heq (List.cons_ne_nil _ _)
  · next heq =>
    obtain ⟨rfl, rfl⟩ := List.cons.inj heq
    exact if_neg (by simp [hcomment, hfeed, hreturn])

theorem expression?_of_begins {statement : Statement} (h : statement.Begins cs rest)
    (p : Progress) : expression? p cs = (statement.apply p).map (·, rest) := by
  cases statement with
  | nothing =>
    obtain ⟨hblank, rfl⟩ := h
    rcases hskip : skipSpaces cs with - | ⟨c, tail⟩
    · rw [expression?, hskip]
      rfl
    · have hc := hblank c tail hskip
      simp only [List.mem_cons, List.not_mem_nil, or_false] at hc
      rcases hc with rfl | rfl | rfl <;> rw [expression?, hskip] <;> rfl
  | header series path key =>
    obtain ⟨tail, hskip, _, hkey, rfl⟩ := h
    rw [← header?_of_key hkey]
    cases series with
    | true =>
      rw [expression?, hskip]
      rfl
    | false =>
      have htail (more : List Char) : tail ≠ '[' :: more := by
        rintro rfl
        rw [key?_of_not_keyChar (by decide) rfl] at hkey
        exact absurd hkey (by simp)
      exact expression?_of_table hskip htail p
  | setting path key d =>
    obtain ⟨_, hkey, before, rfl, hvalue⟩ := h
    rw [← keyValue?_of_value hkey hvalue]
    rcases hskip : skipSpaces cs with - | ⟨c, tail⟩
    · rw [hskip, key?_nil] at hkey
      exact absurd hkey (by simp)
    · refine expression?_of_not_mem hskip (fun hc => ?_) p
      rw [hskip] at hkey
      simp only [List.mem_cons, List.not_mem_nil, or_false] at hc
      rcases hc with rfl | rfl | rfl | rfl <;>
        exact absurd hkey (by rw [key?_of_not_keyChar (by decide) rfl]; simp)

theorem exists_begins (h : expression? p cs = some (q, rest)) :
    ∃ statement : Statement, statement.Begins cs rest := by
  unfold expression? at h
  split at h
  · next hskip =>
    obtain ⟨path, key, hkey⟩ := exists_key_of_header? h
    exact ⟨.header true path key, _, hskip, _, hkey, rfl⟩
  · next hskip =>
    obtain ⟨path, key, hkey⟩ := exists_key_of_header? h
    exact ⟨.header false path key, _, hskip, _, hkey, rfl⟩
  · next hskip =>
    obtain ⟨-, rfl⟩ := Prod.mk.inj (Option.some.inj h)
    exact ⟨.nothing, by simp [hskip], hskip⟩
  · next hskip =>
    split_ifs at h with hblank
    · obtain ⟨-, rfl⟩ := Prod.mk.inj (Option.some.inj h)
      refine ⟨.nothing, ?_, hskip⟩
      intro d tail heq
      obtain ⟨rfl, -⟩ := List.cons.inj (hskip.symm.trans heq)
      simpa [or_assoc] using hblank
    · obtain ⟨path, key, before, d, hkey, hvalue⟩ := exists_value_of_keyValue? h
      rw [← hskip] at hkey
      exact ⟨.setting path key d, _, hkey, before, rfl, hvalue⟩

theorem expression?_eq_some_iff : expression? p cs = some (q, rest) ↔
    ∃ statement : Statement, statement.apply p = some q ∧ statement.Begins cs rest := by
  constructor
  · intro h
    obtain ⟨statement, hbegins⟩ := exists_begins h
    rw [expression?_of_begins hbegins] at h
    obtain ⟨q', happly, heq⟩ := Option.map_eq_some_iff.mp h
    obtain ⟨rfl, -⟩ := Prod.mk.inj heq
    exact ⟨statement, happly, hbegins⟩
  · rintro ⟨statement, happly, hbegins⟩
    rw [expression?_of_begins hbegins, happly, Option.map_some]

/-! ## Lines -/

/-- The lines of a text, read from what was read before. -/
def readLines (p : Progress) (cs : List Char) : Option Progress := lines? (cs.length + 1) p cs

theorem Statement.Begins.length_le {statement : Statement} (h : statement.Begins cs rest) :
    (skipBlank rest).length ≤ cs.length :=
  ((skipBlank_suffix rest).trans (steadyAt_begins statement (n := 0) |>.suffix h)).length_le

theorem lines?_of_length_lt {m n : ℕ} {p : Progress} (hm : cs.length < m) (hn : cs.length < n) :
    lines? m p cs = lines? n p cs := by
  induction m generalizing n p cs with
  | zero => omega
  | succ m ih =>
    cases n with
    | zero => omega
    | succ n =>
      rw [lines?, lines?]
      cases h : expression? p cs with
      | none => rfl
      | some r =>
        obtain ⟨q, rest⟩ := r
        obtain ⟨statement, hbegins⟩ := exists_begins h
        have hle := hbegins.length_le
        dsimp only
        split
        · rfl
        · next hne =>
          split
          · next after hbreak =>
            have hlength := lineBreak?_length hbreak
            exact ih (by omega) (by omega)
          · rfl

/-- What is read from the rest of a line and the lines behind it. -/
def readOn (p : Progress) (rest : List Char) : Option Progress :=
  match skipBlank rest with
  | [] => some p
  | c :: rest => (lineBreak? (c :: rest)).bind (readLines p)

/-- The first line is read, and then those behind it. -/
theorem readLines_eq (p : Progress) (cs : List Char) :
    readLines p cs = (expression? p cs).bind fun r => readOn r.1 r.2 := by
  rw [readLines, lines?]
  cases h : expression? p cs with
  | none => rfl
  | some r =>
    obtain ⟨q, rest⟩ := r
    obtain ⟨statement, hbegins⟩ := exists_begins h
    have hle := hbegins.length_le
    dsimp only [Option.bind_some]
    rw [readOn]
    rcases hskip : skipBlank rest with - | ⟨c, tail⟩
    · rfl
    · rw [hskip] at hle
      dsimp only
      cases hbreak : lineBreak? (c :: tail) with
      | none => rfl
      | some after =>
        have hlength := lineBreak?_length hbreak
        exact lines?_of_length_lt (by omega) (by omega)

theorem readLines_eq_some_iff : readLines p cs = some q ↔
    ∃ (statement : Statement) (rest : List Char), statement.Begins cs rest ∧
      ∃ p', statement.apply p = some p' ∧ readOn p' rest = some q := by
  rw [readLines_eq, Option.bind_eq_some_iff]
  constructor
  · rintro ⟨⟨p', rest⟩, hread, hon⟩
    obtain ⟨statement, happly, hbegins⟩ := expression?_eq_some_iff.mp hread
    exact ⟨statement, rest, hbegins, p', happly, hon⟩
  · rintro ⟨statement, rest, hbegins, p', happly, hon⟩
    exact ⟨(p', rest), expression?_eq_some_iff.mpr ⟨statement, happly, hbegins⟩, hon⟩

theorem readOn_of_break {after : List Char} (h : lineBreak? (skipBlank rest) = some after)
    (p : Progress) : readOn p rest = readLines p after := by
  rw [readOn]
  split
  · next hskip =>
    rw [hskip] at h
    exact absurd h (by simp [lineBreak?])
  · next hskip => rw [← hskip, h, Option.bind_some]

theorem readOn_eq_some_iff : readOn p rest = some q ↔
    (skipBlank rest = [] ∧ p = q) ∨
      ∃ after, lineBreak? (skipBlank rest) = some after ∧ readLines p after = some q := by
  rw [readOn]
  rcases hskip : skipBlank rest with - | ⟨c, tail⟩
  · simp [lineBreak?]
  · simp [Option.bind_eq_some_iff]

theorem readLines_of_begins {statement : Statement} {after : List Char}
    (h : statement.Begins cs rest) (hbreak : lineBreak? (skipBlank rest) = some after)
    (p : Progress) : readLines p cs = (statement.apply p).bind fun q => readLines q after := by
  rw [readLines_eq, expression?_of_begins h, Option.bind_map]
  exact Option.bind_congr fun q _ => readOn_of_break hbreak q

/-- A line that holds a statement is done with before the text behind it. -/
theorem readLines_line {statement : Statement} {line : List Char} (h : statement.Begins line ['\n'])
    (p : Progress) (more : List Char) :
    readLines p (line ++ more) = (statement.apply p).bind fun q => readLines q more := by
  have hsteady := steadyAt_begins statement (n := 0)
  have hends : EndsLine line := hsteady.suffix h
  exact readLines_of_begins (hsteady.append h hends 0 le_rfl more) rfl p

/-- Text behind whole lines is read from what these lines leave. -/
theorem readLines_append (hends : EndsLine cs) (h : readLines p cs = some q) (more : List Char) :
    readLines p (cs ++ more) = readLines q more := by
  -- The induction is on the length of the lines, of which each step reads the first.
  induction hlength : cs.length using Nat.strong_induction_on generalizing p cs with
  | _ n ih =>
    obtain ⟨statement, rest, hbegins, p', happly, hon⟩ := readLines_eq_some_iff.mp h
    have hsteady := steadyAt_begins statement (n := 0)
    have hle := hbegins.length_le
    have hrest : EndsLine rest := hsteady.endsLine hbegins hends
    have hblank := steadyAt_skipBlank (n := 0) |>.endsLine rfl hrest
    have hblankMore := steadyAt_skipBlank (n := 0) |>.append rfl hrest 0 le_rfl more
    rcases readOn_eq_some_iff.mp hon with ⟨hnil, -⟩ | ⟨after, hbreak, hafter⟩
    · exact absurd hnil hblank.ne_nil
    have hbreakMore : lineBreak? (skipBlank (rest ++ more)) = some (after ++ more) := by
      rw [hblankMore, lineBreak?_append hblank, hbreak, Option.map_some]
    have hmore : readLines p (cs ++ more) = readLines p' (after ++ more) := by
      rw [readLines_of_begins (hsteady.append hbegins hends 0 le_rfl more) hbreakMore, happly,
        Option.bind_some]
    rw [hmore]
    by_cases hnil : after = []
    · subst hnil
      obtain rfl : p' = q := Option.some.inj hafter
      rfl
    · have hlt := lineBreak?_length hbreak
      exact ih after.length (by omega) (hblank.of_suffix (lineBreak?_suffix hbreak) hnil) hafter rfl

/-- What a text says does not depend on what was read before. -/
theorem exists_statements (h : readLines p cs = some q) :
    ∃ statements : List Statement,
      ∀ p', readLines p' cs = statements.foldlM Statement.apply p' := by
  induction hlength : cs.length using Nat.strong_induction_on generalizing p cs with
  | _ n ih =>
    obtain ⟨statement, rest, hbegins, q', happly, hon⟩ := readLines_eq_some_iff.mp h
    have hstatement (p' : Progress) := expression?_of_begins hbegins p'
    have hle := hbegins.length_le
    rcases readOn_eq_some_iff.mp hon with ⟨hnil, -⟩ | ⟨after, hbreak, hafter⟩
    · refine ⟨[statement], fun p' => ?_⟩
      rw [readLines_eq, hstatement]
      cases hp' : statement.apply p' <;> simp [readOn, hnil, hp']
    · have hlt := lineBreak?_length hbreak
      obtain ⟨statements, hstatements⟩ := ih after.length (by omega) hafter rfl
      refine ⟨statement :: statements, fun p' => ?_⟩
      rw [readLines_eq, hstatement]
      cases hp' : statement.apply p' <;> simp [readOn_of_break hbreak, hp', hstatements]

end CaseRouting.Toml
