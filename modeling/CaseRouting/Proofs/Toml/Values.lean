import CaseRouting.Proofs.Toml.Quoted

/-!
# Keys and values

A key is made of parts with dots between them. A value is a quoted text, a word, or an array or a
table in a line, which may go over many lines and ends where its own mark closes it.
-/

namespace CaseRouting.Toml

variable {c mark : Char} {cs rest : List Char} {escapes : Bool} {n depth : ℕ}

/-! ## Keys -/

theorem keyPart?_of_quote (h : (mark, escapes) ∈ quotes) (tail : List Char) :
    keyPart? (mark :: tail) = lineText mark escapes (tail.length + 2) [] tail := by
  simp only [quotes, List.mem_cons, Prod.mk.injEq, List.not_mem_nil, or_false] at h
  rcases h with ⟨rfl, rfl⟩ | ⟨rfl, rfl⟩ <;> rfl

theorem keyPart?_of_takeWhile (h : cs.takeWhile isKeyChar ≠ []) :
    keyPart? cs = some (.ofList (cs.takeWhile isKeyChar), cs.dropWhile isKeyChar) := by
  have hne (mark : Char) (hmark : isKeyChar mark = false) (tail : List Char) :
      cs ≠ mark :: tail := by
    rintro rfl
    exact h (List.takeWhile_cons_of_neg (by simp [hmark]))
  rw [← drop_takeWhile, keyPart?]
  · exact if_neg (by simpa using h)
  · exact hne '"' rfl
  · exact hne '\'' rfl

theorem keyPart?_eq_some_iff {part : String} : keyPart? cs = some (part, rest) ↔
    (∃ mark escapes, (mark, escapes) ∈ quotes ∧ ∃ tail, cs = mark :: tail ∧
      lineText mark escapes (tail.length + 2) [] tail = some (part, rest)) ∨
      ∃ letters, (letters ≠ [] ∧ part = .ofList letters) ∧
        cs.takeWhile isKeyChar = letters ∧ cs.dropWhile isKeyChar = rest := by
  constructor
  · intro h
    unfold keyPart? at h
    split at h
    · exact .inl ⟨'"', true, by decide, _, rfl, h⟩
    · exact .inl ⟨'\'', false, by decide, _, rfl, h⟩
    · dsimp only at h
      split_ifs at h with hletters
      obtain ⟨rfl, rfl⟩ := Prod.mk.inj (Option.some.inj h)
      exact .inr ⟨_, ⟨by simpa using hletters, rfl⟩, rfl, (drop_takeWhile _ _).symm⟩
  · rintro (⟨mark, escapes, hquote, tail, rfl, h⟩ | ⟨_, ⟨hletters, rfl⟩, rfl, rfl⟩)
    · exact (keyPart?_of_quote hquote tail).trans h
    · exact keyPart?_of_takeWhile hletters

theorem steadyAt_keyPart? (part : String) :
    SteadyAt (fun _ cs rest => keyPart? cs = some (part, rest)) n := by
  refine .of_iff (fun _ _ _ => keyPart?_eq_some_iff) (.or ?_ ?_)
  · refine .exists fun mark => .exists fun escapes => .and fun hquote => ?_
    have hmark := ne_of_mem_quotes hquote
    have hline (n : ℕ) : SteadyAt (fun m cs rest =>
        lineText mark escapes m [] cs = some (part, rest)) n := steadyAt_lineText hmark n [] part
    exact (steadyAt_cons hmark).comp (.ofLength (k := (· + 2)) add_left_mono hline n)
  · exact .exists fun letters => .and fun _ => steadyAt_takeWhile rfl letters

theorem key?_succ_eq_some_iff {path : List String} {key : String} :
    key? (n + 1) cs = some ((path, key), rest) ↔
      ∃ part after, keyPart? (skipSpaces cs) = some (part, after) ∧
        ((∃ path', part :: path' = path ∧ ∃ tail, skipSpaces after = '.' :: tail ∧
            key? n tail = some ((path', key), rest)) ∨
          ([] = path ∧ part = key) ∧ ¬['.'] <+: skipSpaces after ∧ skipSpaces after = rest) := by
  rw [key?]
  cases hpart : keyPart? (skipSpaces cs) with
  | none => simp
  | some r =>
    obtain ⟨part, after⟩ := r
    dsimp only
    split
    · next tail hdot =>
      simp [hdot, and_comm]
    · next hdot =>
      have hdot (tail : List Char) : skipSpaces after ≠ '.' :: tail := hdot tail
      have hlast : ¬['.'] <+: skipSpaces after := fun ⟨tail, htail⟩ => hdot tail htail.symm
      simp [hdot, hlast, and_assoc]

theorem steadyAt_key? (n : ℕ) (key : List String × String) :
    SteadyAt (fun m cs rest => key? m cs = some (key, rest)) n := by
  obtain ⟨path, key⟩ := key
  induction n generalizing path with
  | zero => exact .of_forall_not fun _ _ => by simp [key?]
  | succ n ih =>
    refine .succ (fun _ _ _ => key?_succ_eq_some_iff) (.exists fun part => ?_)
    have hdot (path' : List String) : SteadyAt (fun m cs rest => ∃ tail, cs = '.' :: tail ∧
        key? m tail = some ((path', key), rest)) n := (steadyAt_cons (by decide)).comp (ih path')
    have hlast : SteadyAt (fun _ cs rest => ¬['.'] <+: cs ∧ cs = rest) n :=
      .ahead (fun cs hends h => hends.not_prefix_append (by decide) h) steadyAt_eq
    refine (steadyAt_skipSpaces.after (steadyAt_keyPart? part)).comp (.or ?_ ?_)
    · exact .exists fun path' => .and fun _ => steadyAt_skipSpaces.after (hdot path')
    · exact .and fun _ => steadyAt_skipSpaces.after hlast

/-! ## Words -/

/-- A time follows the date that was read. -/
def goesOn (first : List Char) : List Char → Bool
  | ' ' :: tail => first.length = 10 && date? first == some [] && tail.head?.any Char.isDigit
  | _ => false

theorem goesOn_append {first mid : List Char} (hends : EndsLine mid) (more : List Char) :
    goesOn first (mid ++ more) = goesOn first mid := by
  obtain ⟨c, tail, rfl⟩ := List.exists_cons_of_ne_nil hends.ne_nil
  by_cases hblank : c = ' '
  · subst hblank
    have hhead : (tail ++ more).head? = tail.head? :=
      List.head?_append_of_ne_nil _ (hends.tail (by decide)).ne_nil
    rw [List.cons_append, goesOn, goesOn, hhead]
  · have hnone (tail : List Char) : goesOn first (c :: tail) = false := by
      rw [goesOn]
      exact fun _ heq => hblank (List.cons.inj heq).1
    rw [List.cons_append, hnone, hnone]

theorem exists_of_goesOn {first mid : List Char} (h : goesOn first mid = true) :
    ∃ tail, mid = ' ' :: tail := by
  unfold goesOn at h
  split at h
  · exact ⟨_, rfl⟩
  · exact absurd h (by simp)

theorem word_eq (cs : List Char) :
    word cs = if goesOn (cs.takeWhile isWordChar) (cs.dropWhile isWordChar) then
      (cs.takeWhile isWordChar ++ ' ' :: (cs.dropWhile isWordChar).tail.takeWhile isWordChar,
        (cs.dropWhile isWordChar).tail.dropWhile isWordChar)
    else (cs.takeWhile isWordChar, cs.dropWhile isWordChar) := by
  rw [word]
  dsimp only
  rw [drop_takeWhile]
  split
  · next tail hmid =>
    rw [drop_takeWhile, hmid]
    rfl
  · next hblank =>
    rw [if_neg]
    intro hgoes
    obtain ⟨tail, htail⟩ := exists_of_goesOn hgoes
    exact hblank tail htail

theorem word_eq_iff {w : List Char} : word cs = (w, rest) ↔
    ∃ first mid, (cs.takeWhile isWordChar = first ∧ cs.dropWhile isWordChar = mid) ∧
      ((goesOn first mid = true ∧ ∃ tail, mid = ' ' :: tail ∧ ∃ second, first ++ ' ' :: second = w ∧
          tail.takeWhile isWordChar = second ∧ tail.dropWhile isWordChar = rest) ∨
        goesOn first mid = false ∧ first = w ∧ mid = rest) := by
  rw [word_eq]
  cases hgoes : goesOn (cs.takeWhile isWordChar) (cs.dropWhile isWordChar) with
  | false =>
    simp [hgoes]
  | true =>
    obtain ⟨tail, htail⟩ := exists_of_goesOn hgoes
    rw [htail] at hgoes
    simp [hgoes, htail]

theorem steadyAt_word (w : List Char) : SteadyAt (fun _ cs rest => word cs = (w, rest)) n := by
  refine .of_iff (fun _ _ _ => word_eq_iff) (.exists fun first => ?_)
  refine (steadyAt_takeWhile rfl first).comp (.or ?_ ?_)
  · refine .ahead (fun mid hends h more => (goesOn_append hends more).trans h) ?_
    exact (steadyAt_cons (by decide)).comp
      (.exists fun second => .and fun _ => steadyAt_takeWhile rfl second)
  · exact .ahead (fun mid hends h more => (goesOn_append hends more).trans h)
      (.and fun _ => steadyAt_eq)

/-! ## Values -/

theorem scalar?_nil : scalar? [] = none := by decide

theorem word_cons_of_not (hc : isWordChar c = false) (cs : List Char) :
    (word (c :: cs)).1 = [] := by
  have hfirst : (c :: cs).takeWhile isWordChar = [] := List.takeWhile_cons_of_neg (by simp [hc])
  rw [word_eq, hfirst, if_neg]
  intro hgoes
  obtain ⟨tail, htail⟩ := exists_of_goesOn hgoes
  rw [htail] at hgoes
  exact absurd hgoes (by simp [goesOn])

theorem value?_nil (n depth : ℕ) : value? n depth [] = none := by
  cases n <;> rw [value?]

theorem value?_succ_cons (n depth : ℕ) (c : Char) (cs : List Char) :
    value? (n + 1) depth (c :: cs) =
    if c = '"' || c = '\'' then (quotedText? (c :: cs)).map fun r => (.ofText r.1, r.2)
    else if c = '[' then
      match depth with
      | 0 => none
      | depth + 1 => (array? n depth cs).map fun r => (.array r.1 true, r.2)
    else if c = '\x7b' then
      match depth with
      | 0 => none
      | depth + 1 =>
        (inline? n depth [] cs).map fun r => ((Entry.table false false r.1).toDoc, r.2)
    else (scalar? (word (c :: cs)).1).map fun d => (d, (word (c :: cs)).2) := by
  cases depth <;> rw [value?]

theorem value?_of_word {w : List Char} {d : Doc} (hscalar : scalar? w = some d)
    (hword : word cs = (w, rest)) : value? (n + 1) depth cs = some (d, rest) := by
  rcases cs with - | ⟨c, cs⟩
  · obtain ⟨rfl, -⟩ := Prod.mk.inj hword
    exact absurd hscalar (by simp [scalar?_nil])
  have hc : isWordChar c = true := by
    by_contra hc
    have hnil : (word (c :: cs)).1 = [] := word_cons_of_not (Bool.eq_false_iff.mpr hc) cs
    rw [hword] at hnil
    dsimp only at hnil
    rw [hnil, scalar?_nil] at hscalar
    exact absurd hscalar (by simp)
  have hne {mark : Char} (hmark : isWordChar mark = false) : c ≠ mark := by
    rintro rfl
    exact absurd hc (by simp [hmark])
  have hdouble : c ≠ '"' := hne rfl
  have hsingle : c ≠ '\'' := hne rfl
  rw [value?_succ_cons, if_neg (by simp [hdouble, hsingle]), if_neg (hne rfl), if_neg (hne rfl),
    hword]
  exact congrArg (Option.map _) hscalar

theorem value?_succ_eq_some_iff {d : Doc} : value? (n + 1) depth cs = some (d, rest) ↔
    (∃ w, d = .ofText w ∧ quotedText? cs = some (w, rest)) ∨
      (∃ inner ds, (depth = inner + 1 ∧ d = .array ds true) ∧
        ∃ tail, cs = '[' :: tail ∧ array? n inner tail = some (ds, rest)) ∨
      (∃ inner ms, (depth = inner + 1 ∧ d = (Entry.table false false ms).toDoc) ∧
        ∃ tail, cs = '\x7b' :: tail ∧ inline? n inner [] tail = some (ms, rest)) ∨
      ∃ w, scalar? w = some d ∧ word cs = (w, rest) := by
  constructor
  · intro h
    rcases cs with - | ⟨c, cs⟩
    · exact absurd h (by simp [value?_nil])
    rw [value?_succ_cons] at h
    split_ifs at h with hquote hbracket hbrace
    · obtain ⟨⟨w, rest'⟩, hread, heq⟩ := Option.map_eq_some_iff.mp h
      obtain ⟨rfl, rfl⟩ := Prod.mk.inj heq
      exact .inl ⟨w, rfl, hread⟩
    · cases depth with
      | zero => exact absurd h (by simp)
      | succ inner =>
        obtain ⟨⟨ds, rest'⟩, hread, heq⟩ := Option.map_eq_some_iff.mp h
        obtain ⟨rfl, rfl⟩ := Prod.mk.inj heq
        exact .inr (.inl ⟨inner, ds, ⟨rfl, rfl⟩, cs, by rw [hbracket], hread⟩)
    · cases depth with
      | zero => exact absurd h (by simp)
      | succ inner =>
        obtain ⟨⟨ms, rest'⟩, hread, heq⟩ := Option.map_eq_some_iff.mp h
        obtain ⟨rfl, rfl⟩ := Prod.mk.inj heq
        exact .inr (.inr (.inl ⟨inner, ms, ⟨rfl, rfl⟩, cs, by rw [hbrace], hread⟩))
    · obtain ⟨d', hread, heq⟩ := Option.map_eq_some_iff.mp h
      obtain ⟨rfl, rfl⟩ := Prod.mk.inj heq
      exact .inr (.inr (.inr ⟨_, hread, rfl⟩))
  · rintro (⟨w, rfl, h⟩ | ⟨inner, ds, ⟨rfl, rfl⟩, tail, rfl, h⟩ |
      ⟨inner, ms, ⟨rfl, rfl⟩, tail, rfl, h⟩ | ⟨w, hscalar, hword⟩)
    · obtain ⟨mark, escapes, hquote, tail, rfl, -⟩ := quotedText?_eq_some_iff.mp h
      have hmark : mark = '"' ∨ mark = '\'' := by
        simp only [quotes, List.mem_cons, Prod.mk.injEq, List.not_mem_nil, or_false] at hquote
        exact hquote.imp And.left And.left
      rw [value?_succ_cons, if_pos (by simpa using hmark), h, Option.map_some]
    · rw [value?_succ_cons]
      simp [h]
    · rw [value?_succ_cons]
      simp [h]
    · exact value?_of_word hscalar hword

theorem value?_of_not_word (hc : c ∉ ['"', '\'', '[', '\x7b']) (hword : isWordChar c = false)
    (cs : List Char) : value? n depth (c :: cs) = none := by
  simp only [List.mem_cons, List.not_mem_nil, or_false, not_or] at hc
  obtain ⟨hdouble, hsingle, hbracket, hbrace⟩ := hc
  cases n with
  | zero => rw [value?]
  | succ n =>
    rw [value?_succ_cons, if_neg (by simp [hdouble, hsingle]), if_neg hbracket, if_neg hbrace,
      word_cons_of_not hword, scalar?_nil, Option.map_none]

/-- An array is closed, or has a value and then is closed or goes on behind a comma. -/
theorem array?_succ_eq_some_iff {ds : List Doc} : array? (n + 1) depth cs = some (ds, rest) ↔
    ([] = ds ∧ skipAllLines cs = ']' :: rest) ∨
      ∃ d after, value? n depth (skipAllLines cs) = some (d, after) ∧
        (([d] = ds ∧ skipAllLines after = ']' :: rest) ∨
          ∃ more, d :: more = ds ∧ ∃ tail, skipAllLines after = ',' :: tail ∧
            array? n depth tail = some (more, rest)) := by
  have hclosed (tail : List Char) : value? n depth (']' :: tail) = none :=
    value?_of_not_word (by decide) rfl tail
  rw [array?]
  split
  · next tail hskip => simp [hskip, hclosed, and_comm]
  · next hclose =>
    have hclose (tail : List Char) : skipAllLines cs ≠ ']' :: tail := hclose tail
    cases hvalue : value? n depth (skipAllLines cs) with
    | none => simp [hclose]
    | some r =>
      obtain ⟨d, after⟩ := r
      dsimp only
      split
      · next tail hskip => simp [hclose, hskip, and_comm]
      · next tail hskip => simp [hclose, hskip, and_comm]
      · next hcomma hend =>
        have hcomma (tail : List Char) : skipAllLines after ≠ ',' :: tail := hcomma tail
        have hend (tail : List Char) : skipAllLines after ≠ ']' :: tail := hend tail
        simp [hclose, hcomma, hend]

theorem keyPart?_of_not_keyChar (hc : c ∉ ['"', '\'']) (hkey : isKeyChar c = false)
    (cs : List Char) : keyPart? (c :: cs) = none := by
  simp only [List.mem_cons, List.not_mem_nil, or_false, not_or] at hc
  rw [Option.eq_none_iff_forall_not_mem]
  rintro ⟨part, rest⟩ hread
  rcases keyPart?_eq_some_iff.mp hread with ⟨mark, escapes, hquote, tail, heq, -⟩ | ⟨_, hne, rfl, -⟩
  · obtain ⟨rfl, -⟩ := List.cons.inj heq
    simp [quotes, hc] at hquote
  · exact hne.1 (List.takeWhile_cons_of_neg (by simp [hkey]))

theorem key?_of_not_keyChar (hc : c ∉ ['"', '\'', ' ', '\t']) (hkey : isKeyChar c = false)
    (n : ℕ) (cs : List Char) : key? n (c :: cs) = none := by
  simp only [List.mem_cons, List.not_mem_nil, or_false, not_or] at hc
  obtain ⟨hdouble, hsingle, hblank, htab⟩ := hc
  cases n with
  | zero => rfl
  | succ n =>
    have hskip : skipSpaces (c :: cs) = c :: cs :=
      List.dropWhile_cons_of_neg (by simp [isSpace, hblank, htab])
    rw [key?, hskip, keyPart?_of_not_keyChar (by simp [hdouble, hsingle]) hkey]

theorem key?_nil (n : ℕ) : key? n [] = none := by
  cases n <;> rfl

theorem inline?_succ_eq_some_iff {ms ms' : Members} :
    inline? (n + 1) depth ms cs = some (ms', rest) ↔
      (ms = ms' ∧ skipAllLines cs = '\x7d' :: rest) ∨
        ∃ key after, key? ((skipAllLines cs).length + 1) (skipAllLines cs) = some (key, after) ∧
          ∃ before, after = '=' :: before ∧
            ∃ d behind, value? n depth (skipSpaces before) = some (d, behind) ∧
              ∃ ms₁, assignIn key.1 key.2 d false ms = some ms₁ ∧
                ((ms₁ = ms' ∧ skipAllLines behind = '\x7d' :: rest) ∨
                  ∃ tail, skipAllLines behind = ',' :: tail ∧
                    inline? n depth ms₁ tail = some (ms', rest)) := by
  have hclosed (n : ℕ) (tail : List Char) : key? n ('\x7d' :: tail) = none :=
    key?_of_not_keyChar (by decide) rfl n tail
  rw [inline?]
  split
  · next tail hskip => simp [hskip, hclosed, and_comm]
  · next hclose =>
    have hclose (tail : List Char) : skipAllLines cs ≠ '\x7d' :: tail := hclose tail
    split
    · next path key before hkey =>
      cases hvalue : value? n depth (skipSpaces before) with
      | none => simp [hclose, hkey, hvalue]
      | some r =>
        obtain ⟨d, behind⟩ := r
        dsimp only
        cases hassign : assignIn path key d false ms with
        | none => simp [hclose, hkey, hvalue, hassign]
        | some ms₁ =>
          dsimp only
          split
          · next tail hskip => simp [hclose, hkey, hvalue, hassign, hskip]
          · next tail hskip =>
            simp [hclose, hkey, hvalue, hassign, hskip, and_comm]
          · next hcomma hend =>
            have hcomma (tail : List Char) : skipAllLines behind ≠ ',' :: tail := hcomma tail
            have hend (tail : List Char) : skipAllLines behind ≠ '\x7d' :: tail := hend tail
            simp [hclose, hkey, hvalue, hcomma, hend]
    · next hkey =>
      refine iff_of_false (by simp) ?_
      rintro (⟨-, hend⟩ | ⟨⟨path, key⟩, _, hread, before, rfl, -⟩)
      · exact hclose rest hend
      · exact hkey path key before hread

/-! ## Values in front of other text -/

section

variable (hvalue : ∀ depth d, SteadyAt (fun m cs rest => value? m depth cs = some (d, rest)) n)
  (harray : ∀ depth ds, SteadyAt (fun m cs rest => array? m depth cs = some (ds, rest)) n)
  (hinline : ∀ depth ms ms', SteadyAt (fun m cs rest => inline? m depth ms cs = some (ms', rest)) n)

theorem steadyAt_mark (hc : c ≠ '\n') : SteadyAt (fun _ cs rest => skipAllLines cs = c :: rest) n :=
  steadyAt_skipAllLines.after_of_ne_nil (by simp) (steadyAt_cons hc)

include hvalue harray in
theorem steadyAt_array?_succ (depth : ℕ) (ds : List Doc) :
    SteadyAt (fun m cs rest => array? m depth cs = some (ds, rest)) (n + 1) := by
  have hfirst (d : Doc) :
      SteadyAt (fun m cs rest => value? m depth (skipAllLines cs) = some (d, rest)) n :=
    steadyAt_skipAllLines.after_of_ne_nil (by simp [value?_nil]) (hvalue depth d)
  have hmore (more : List Doc) : SteadyAt (fun m cs rest => ∃ tail, skipAllLines cs = ',' :: tail ∧
      array? m depth tail = some (more, rest)) n :=
    (steadyAt_mark (by decide)).comp (harray depth more)
  refine .succ (fun _ _ _ => array?_succ_eq_some_iff) (.or ?_ (.exists fun d => ?_))
  · exact .and fun _ => steadyAt_mark (by decide)
  · refine (hfirst d).comp (.or ?_ (.exists fun more => ?_))
    · exact .and fun _ => steadyAt_mark (by decide)
    · exact .and fun _ => hmore more

include hvalue hinline in
theorem steadyAt_inline?_succ (depth : ℕ) (ms ms' : Members) :
    SteadyAt (fun m cs rest => inline? m depth ms cs = some (ms', rest)) (n + 1) := by
  have hkey (key : List String × String) : SteadyAt (fun _ cs rest =>
      key? ((skipAllLines cs).length + 1) (skipAllLines cs) = some (key, rest)) n := by
    have hkey (n : ℕ) := steadyAt_key? n key
    exact steadyAt_skipAllLines.after_of_ne_nil (by simp [key?_nil])
      (.ofLength (k := (· + 1)) add_left_mono hkey n)
  have hsetting (d : Doc) : SteadyAt (fun m cs rest =>
      value? m depth (skipSpaces cs) = some (d, rest)) n :=
    steadyAt_skipSpaces.after (hvalue depth d)
  refine .succ (fun _ _ _ => inline?_succ_eq_some_iff) (.or ?_ (.exists fun key => ?_))
  · exact .and fun _ => steadyAt_mark (by decide)
  · refine (hkey key).comp ((steadyAt_cons (by decide)).comp (.exists fun d => ?_))
    refine (hsetting d).comp (.exists fun ms₁ => .and fun _ => .or ?_ ?_)
    · exact .and fun _ => steadyAt_mark (by decide)
    · exact (steadyAt_mark (by decide)).comp (hinline depth ms₁ ms')

include harray hinline in
theorem steadyAt_value?_succ (depth : ℕ) (d : Doc) :
    SteadyAt (fun m cs rest => value? m depth cs = some (d, rest)) (n + 1) := by
  refine .succ (fun _ _ _ => value?_succ_eq_some_iff) (.or ?_ (.or ?_ (.or ?_ ?_)))
  · exact .exists fun w => .and fun _ => steadyAt_quotedText? w
  · exact .exists fun inner => .exists fun ds => .and fun _ =>
      (steadyAt_cons (by decide)).comp (harray inner ds)
  · exact .exists fun inner => .exists fun ms => .and fun _ =>
      (steadyAt_cons (by decide)).comp (hinline inner [] ms)
  · exact .exists fun w => .and fun _ => steadyAt_word w

end

/-- Values, items of an array and members of a table are taken from the front of whole lines. -/
theorem steadyAt_values (n : ℕ) :
    (∀ depth d, SteadyAt (fun m cs rest => value? m depth cs = some (d, rest)) n) ∧
      (∀ depth ds, SteadyAt (fun m cs rest => array? m depth cs = some (ds, rest)) n) ∧
      ∀ depth ms ms', SteadyAt (fun m cs rest => inline? m depth ms cs = some (ms', rest)) n := by
  -- The three readers call each other, each time with one step less.
  induction n with
  | zero =>
    refine ⟨fun depth d => ?_, fun depth ds => ?_, fun depth ms ms' => ?_⟩
    · exact .of_forall_not fun _ _ => by simp [value?]
    · exact .of_forall_not fun _ _ => by simp [array?]
    · exact .of_forall_not fun _ _ => by simp [inline?]
  | succ n ih =>
    obtain ⟨hvalue, harray, hinline⟩ := ih
    exact ⟨steadyAt_value?_succ harray hinline, steadyAt_array?_succ hvalue harray,
      steadyAt_inline?_succ hvalue hinline⟩

end CaseRouting.Toml
