import Mathlib.Tactic
import CaseRouting.Proofs.Toml.Prefix

/-!
# Quoted texts

A quoted text is made of single characters, each of which stands for itself or is written as an
escape; over many lines it may hold line breaks, marks and continued lines as well.
-/

namespace CaseRouting.Toml

variable {c mark : Char} {cs rest done : List Char} {escapes : Bool} {w : String} {n count : ℕ}

/-! ## Escapes -/

theorem mapM_eq_some {α β : Type} {f : α → Option β} {as : List α} {bs : List β}
    (h : as.mapM f = some bs) : bs.length = as.length ∧ ∀ a ∈ as, (f a).isSome := by
  induction as generalizing bs with
  | nil =>
    obtain rfl := Option.some.inj h
    simp
  | cons a as ih =>
    simp only [List.mapM_cons, Option.bind_eq_bind, Option.bind_eq_some_iff, Option.pure_def,
      Option.some.injEq] at h
    obtain ⟨b, hb, bs, hbs, rfl⟩ := h
    obtain ⟨hlength, hall⟩ := ih hbs
    exact ⟨congrArg Nat.succ hlength, List.forall_mem_cons.mpr ⟨Option.isSome_of_eq_some hb, hall⟩⟩

/-- The digits of an escape are of the given number, and read alike in front of any text. -/
theorem hexEscape_eq_some_iff : hexEscape count cs = some (c, rest) ↔
    ∃ text, (text.length = count ∧ ∀ more, hexEscape count (text ++ more) = some (c, more)) ∧
      cs = text ++ rest := by
  constructor
  · intro h
    have hread := h
    obtain ⟨ds, hds, h⟩ := Option.bind_eq_some_iff.mp h
    by_cases hcount : ds.length ≠ count
    · exact absurd ((if_pos hcount).symm.trans h) (by simp)
    by_cases hvalid : (valueOf 16 ds).isValidChar
    case neg => exact absurd ((dif_neg hvalid).symm.trans ((if_neg hcount).symm.trans h)) (by simp)
    have hchar := (dif_pos hvalid).symm.trans ((if_neg hcount).symm.trans h)
    obtain ⟨rfl, rfl⟩ := Prod.mk.inj (Option.some.inj hchar)
    have hlength : (cs.take count).length = count := by
      rw [← (mapM_eq_some hds).1]
      exact not_not.mp hcount
    refine ⟨cs.take count, ⟨hlength, fun more => ?_⟩, (List.take_append_drop count cs).symm⟩
    have htake : (cs.take count ++ more).take count = cs.take count := List.take_left' hlength
    have hdrop : (cs.take count ++ more).drop count = more := List.drop_left' hlength
    rw [hexEscape, htake, hdrop, hds, Option.bind_eq_bind, Option.bind_some]
    exact (if_neg hcount).trans (dif_pos hvalid)
  · rintro ⟨text, ⟨-, hread⟩, rfl⟩
    exact hread rest

theorem steadyAt_hexEscape : SteadyAt (fun _ cs rest => hexEscape count cs = some (c, rest)) n := by
  refine .of_iff (fun _ _ _ => hexEscape_eq_some_iff) (.exists fun text => .and fun htext => ?_)
  obtain ⟨hlength, hread⟩ := htext
  refine steadyAt_line fun hbreak => ?_
  obtain ⟨ds, hds, -⟩ := Option.bind_eq_some_iff.mp (hread [])
  rw [List.append_nil, List.take_of_length_le hlength.le] at hds
  exact absurd ((mapM_eq_some hds).2 _ hbreak) (by decide)

theorem escape?_eq_some_iff : escape? cs = some (c, rest) ↔
    (∃ d, (d ≠ '\n' ∧ ∀ tail, escape? (d :: tail) = some (c, tail)) ∧ cs = d :: rest) ∨
      ∃ d count, (d ≠ '\n' ∧ ∀ tail, escape? (d :: tail) = hexEscape count tail) ∧
        ∃ tail, cs = d :: tail ∧ hexEscape count tail = some (c, rest) := by
  constructor
  · intro h
    have hread := h
    unfold escape? at h
    split at h
    iterate 8
      obtain ⟨rfl, rfl⟩ := Prod.mk.inj (Option.some.inj h)
      exact .inl ⟨_, ⟨by decide, fun _ => rfl⟩, rfl⟩
    iterate 3
      exact .inr ⟨_, _, ⟨by decide, fun _ => rfl⟩, _, rfl, h⟩
    exact absurd h (by simp)
  · rintro (⟨d, ⟨-, hd⟩, rfl⟩ | ⟨d, count, ⟨-, hd⟩, tail, rfl, h⟩)
    · exact hd rest
    · exact (hd tail).trans h

theorem steadyAt_escape? : SteadyAt (fun _ cs rest => escape? cs = some (c, rest)) n := by
  refine .of_iff (fun _ _ _ => escape?_eq_some_iff) (.or ?_ ?_)
  · exact .exists fun d => .and fun hd => steadyAt_cons hd.1
  · exact .exists fun d => .exists fun count => .and fun hd =>
      (steadyAt_cons hd.1).comp steadyAt_hexEscape

theorem escape?_length_lt (h : escape? cs = some (c, rest)) : rest.length < cs.length := by
  rcases escape?_eq_some_iff.mp h with ⟨d, -, rfl⟩ | ⟨d, count, -, tail, rfl, hread⟩
  · exact Nat.lt_succ_self _
  · exact Nat.lt_succ_of_le ((steadyAt_hexEscape (n := 0)).suffix hread).length_le

/-! ## Characters -/

/-- A character as it is written in a quoted text. -/
def Spelled (mark : Char) (escapes : Bool) (c : Char) (cs rest : List Char) : Prop :=
  ((c ≠ mark ∧ ¬(c = '\\' ∧ escapes = true) ∧ isPlain c = true) ∧ cs = c :: rest) ∨
    (mark ≠ '\\' ∧ escapes = true) ∧ ∃ tail, cs = '\\' :: tail ∧ escape? tail = some (c, rest)

theorem ne_of_isPlain (h : isPlain c = true) : c ≠ '\n' := by
  rintro rfl
  exact absurd h (by decide)

theorem steadyAt_spelled : SteadyAt (fun _ => Spelled mark escapes c) n :=
  .or (.and fun h => steadyAt_cons (ne_of_isPlain h.2.2))
    (.and fun _ => (steadyAt_cons (by decide)).comp steadyAt_escape?)

theorem Spelled.length_lt (h : Spelled mark escapes c cs rest) : rest.length < cs.length := by
  rcases h with ⟨-, rfl⟩ | ⟨-, tail, rfl, hread⟩
  · exact Nat.lt_succ_self _
  · exact (escape?_length_lt hread).trans (Nat.lt_succ_self _)

/-! ## Texts on one line -/

theorem lineText_of_spelled {mid : List Char} (h : Spelled mark escapes c cs mid) :
    lineText mark escapes (n + 1) done cs = lineText mark escapes n (c :: done) mid := by
  rcases h with ⟨⟨hmark, hescape, hplain⟩, rfl⟩ | ⟨⟨hmark, hescapes⟩, tail, rfl, hread⟩
  · rw [lineText, if_neg hmark, if_neg (by simpa using hescape), if_pos hplain]
  · rw [lineText, if_neg hmark.symm, if_pos (by simpa using hescapes), hread]

theorem lineText_succ_eq_some_iff : lineText mark escapes (n + 1) done cs = some (w, rest) ↔
    (w = .ofList done.reverse ∧ cs = mark :: rest) ∨
      ∃ c mid, Spelled mark escapes c cs mid ∧
        lineText mark escapes n (c :: done) mid = some (w, rest) := by
  constructor
  · intro h
    rcases cs with - | ⟨c, cs⟩
    · exact absurd h (by simp [lineText])
    rw [lineText] at h
    split_ifs at h with hmark hescape hplain
    · obtain ⟨rfl, rfl⟩ := Prod.mk.inj (Option.some.inj h)
      exact .inl ⟨rfl, hmark ▸ rfl⟩
    · split at h
      · next c' mid hread =>
        simp only [Bool.and_eq_true, decide_eq_true_eq] at hescape
        obtain ⟨rfl, hescapes⟩ := hescape
        exact .inr ⟨c', mid, .inr ⟨⟨Ne.symm hmark, hescapes⟩, cs, rfl, hread⟩, h⟩
      · exact absurd h (by simp)
    · exact .inr ⟨c, cs, .inl ⟨⟨hmark, by simpa using hescape, hplain⟩, rfl⟩, h⟩
  · rintro (⟨rfl, rfl⟩ | ⟨c, mid, hspelled, h⟩)
    · rw [lineText, if_pos rfl]
    · rw [lineText_of_spelled hspelled, h]

theorem steadyAt_lineText (hmark : mark ≠ '\n') (n : ℕ) (done : List Char) (w : String) :
    SteadyAt (fun m cs rest => lineText mark escapes m done cs = some (w, rest)) n := by
  induction n generalizing done with
  | zero => exact .of_forall_not fun _ _ => by simp [lineText]
  | succ n ih =>
    refine .succ (fun _ _ _ => lineText_succ_eq_some_iff) (.or ?_ ?_)
    · exact .and fun _ => steadyAt_cons hmark
    · exact .exists fun c => steadyAt_spelled.comp (ih (c :: done))

/-! ## Texts over many lines -/

theorem continued?_suffix (h : continued? cs = some rest) : rest <:+ cs := by
  obtain ⟨after, hbreak, rfl⟩ := Option.map_eq_some_iff.mp h
  exact (List.dropWhile_suffix _).trans
    ((lineBreak?_suffix hbreak).trans (steadyAt_skipSpaces (n := 0).suffix rfl))

theorem steadyAt_continued? :
    SteadyAt (fun _ cs rest => rest ≠ [] ∧ continued? cs = some rest) n where
  suffix := fun hread => continued?_suffix hread.2
  ne_nil := fun hread _ => hread.1
  append := by
    rintro cs rest ⟨hrest, hread⟩ hends m hm more
    obtain ⟨after, hbreak, rfl⟩ := Option.map_eq_some_iff.mp hread
    have hskip := steadyAt_skipSpaces (n := 0) |>.append rfl hends 0 le_rfl more
    have hendsSkip := steadyAt_skipSpaces (n := 0) |>.endsLine rfl hends
    refine ⟨by simp [hrest], ?_⟩
    rw [continued?, hskip, lineBreak?_append hendsSkip, hbreak, Option.map_some, Option.map_some,
      List.dropWhile_append, if_neg (by simpa using hrest)]

/-- What follows a backslash at the end of a line is no escape. -/
theorem escape?_eq_none_of_continued? (h : continued? cs = some rest) : escape? cs = none := by
  obtain ⟨after, hbreak, -⟩ := Option.map_eq_some_iff.mp h
  rcases cs with - | ⟨c, tail⟩
  · exact absurd hbreak (by simp [skipSpaces, lineBreak?])
  have hc : c ∈ [' ', '\t', '\n', '\r'] := by
    by_cases hspace : isSpace c = true
    · simp only [isSpace, Bool.or_eq_true, beq_iff_eq] at hspace
      rcases hspace with rfl | rfl <;> decide
    · rw [skipSpaces, List.dropWhile_cons_of_neg hspace] at hbreak
      rcases lineBreak?_eq_some_iff.mp hbreak with heq | heq
      · rw [(List.cons.inj heq).1]
        decide
      · rw [(List.cons.inj heq).1]
        decide
  simp only [List.mem_cons, List.not_mem_nil, or_false] at hc
  rcases hc with rfl | rfl | rfl | rfl <;> rfl

def marks (mark : Char) (cs : List Char) : List Char := cs.takeWhile (· == mark)

/-- A part of a text over many lines, as it is written. -/
def Piece (mark : Char) (escapes : Bool) (part cs rest : List Char) : Prop :=
  (∃ c, part = [c] ∧ Spelled mark escapes c cs rest) ∨
    (part = [mark] ∧ (marks mark cs).length < 3 ∧ cs = mark :: rest) ∨
    ((part ∈ [['\n'], ['\r', '\n']] ∧ part.head? ≠ some mark) ∧ rest ≠ [] ∧ cs = part ++ rest) ∨
    (mark ≠ '\\' ∧ escapes = true ∧ part = []) ∧
      ∃ tail, cs = '\\' :: tail ∧ rest ≠ [] ∧ continued? tail = some rest

theorem steadyAt_piece (hmark : mark ≠ '\n') {part : List Char} :
    SteadyAt (fun _ => Piece mark escapes part) n := by
  have hfew (cs : List Char) (hends : EndsLine cs) (h : (marks mark cs).length < 3)
      (more : List Char) : (marks mark (cs ++ more)).length < 3 := by
    have hother : (fun c => c == mark) '\n' = false := beq_eq_false_iff_ne.mpr hmark.symm
    rwa [marks, hends.takeWhile_append hother]
  refine .or ?_ (.or ?_ (.or ?_ ?_))
  · exact .exists fun c => .and fun _ => steadyAt_spelled
  · exact .and fun _ => (steadyAt_cons hmark).ahead hfew
  · exact .and fun _ => steadyAt_text part
  · exact .and fun _ => (steadyAt_cons (by decide)).comp steadyAt_continued?

theorem Piece.length_le {part : List Char} (h : Piece mark escapes part cs rest) :
    part.length + rest.length ≤ cs.length := by
  rcases h with ⟨c, rfl, hspelled⟩ | ⟨rfl, -, rfl⟩ | ⟨-, -, rfl⟩ |
    ⟨⟨-, -, rfl⟩, tail, rfl, -, hread⟩
  · have hlt := hspelled.length_lt
    rw [List.length_singleton]
    omega
  · exact (Nat.add_comm 1 rest.length).le
  · exact List.length_append.ge
  · have hle := (continued?_suffix hread).length_le
    rw [List.length_nil, List.length_cons]
    omega

theorem blockText_nil (n : ℕ) : blockText mark escapes n done [] = none := by
  cases n <;> rfl

theorem blockText_of_piece {part mid : List Char} (h : Piece mark escapes part cs mid) :
    blockText mark escapes (n + 1) done cs =
      blockText mark escapes n (part.reverse ++ done) mid := by
  rcases h with ⟨c, rfl, ⟨⟨hmark, hescape, hplain⟩, rfl⟩ | ⟨⟨hmark, hescapes⟩, tail, rfl, hread⟩⟩ |
    ⟨rfl, hfew, rfl⟩ | ⟨⟨hpart, hmark⟩, -, rfl⟩ | ⟨⟨hmark, hescapes, rfl⟩, tail, rfl, -, hread⟩
  · have hbreak : lineBreak? (c :: mid) = none := by
      by_contra hbreak
      obtain ⟨after, hafter⟩ := Option.ne_none_iff_exists'.mp hbreak
      rcases lineBreak?_eq_some_iff.mp hafter with heq | heq
      · exact ne_of_isPlain hplain (List.cons.inj heq).1
      · rw [(List.cons.inj heq).1] at hplain
        exact absurd hplain (by decide)
    rw [blockText, if_neg hmark, if_neg (by simpa using hescape), hbreak]
    exact if_pos hplain
  · rw [blockText, if_neg hmark.symm, if_pos (by simpa using hescapes), hread]
    rfl
  · rw [blockText, if_pos rfl]
    exact if_pos hfew
  · simp only [List.mem_cons, List.not_mem_nil, or_false] at hpart
    rcases hpart with rfl | rfl
    · have hne : ('\n' : Char) ≠ mark := fun heq => hmark (congrArg some heq)
      exact if_neg hne
    · have hne : ('\r' : Char) ≠ mark := fun heq => hmark (congrArg some heq)
      exact if_neg hne
  · rw [blockText, if_neg hmark.symm, if_pos (by simpa using hescapes),
      escape?_eq_none_of_continued? hread, hread]
    rfl

theorem exists_piece_of_ne (h : blockText mark escapes (n + 1) done (c :: cs) = some (w, rest))
    (hmark : c ≠ mark) : ∃ part mid, Piece mark escapes part (c :: cs) mid ∧
      blockText mark escapes n (part.reverse ++ done) mid = some (w, rest) := by
  have hne {done mid : List Char} (h : blockText mark escapes n done mid = some (w, rest)) :
      mid ≠ [] := by
    rintro rfl
    exact absurd h (by simp [blockText_nil])
  rw [blockText, if_neg hmark] at h
  by_cases hescape : (decide (c = '\\') && escapes) = true
  · rw [if_pos hescape] at h
    simp only [Bool.and_eq_true, decide_eq_true_eq] at hescape
    obtain ⟨rfl, hescapes⟩ := hescape
    split at h
    · next c' mid hread =>
      exact ⟨[c'], mid, .inl ⟨c', rfl, .inr ⟨⟨hmark.symm, hescapes⟩, cs, rfl, hread⟩⟩, h⟩
    · split at h
      · next mid hread =>
        refine ⟨[], mid, .inr (.inr (.inr ⟨⟨hmark.symm, hescapes, rfl⟩, cs, rfl, ?_, hread⟩)), h⟩
        exact hne h
      · exact absurd h (by simp)
  · rw [if_neg hescape] at h
    split at h
    · next mid hbreak =>
      rcases lineBreak?_eq_some_iff.mp hbreak with heq | heq
      · obtain ⟨rfl, rfl⟩ := List.cons.inj heq
        refine ⟨['\n'], cs, .inr (.inr (.inl ⟨⟨by simp, ?_⟩, hne h, rfl⟩)), h⟩
        simpa using hmark
      · obtain ⟨rfl, rfl⟩ := List.cons.inj heq
        refine ⟨['\r', '\n'], mid, .inr (.inr (.inl ⟨⟨by simp, ?_⟩, hne h, rfl⟩)), h⟩
        simpa using hmark
    · split_ifs at h with hplain
      refine ⟨[c], cs, .inl ⟨c, rfl, .inl ⟨⟨hmark, ?_, hplain⟩, rfl⟩⟩, h⟩
      simpa using hescape

theorem blockText_of_marks {run : List Char} (hrun : marks mark cs = run) (hfew : 3 ≤ run.length)
    (hmany : run.length ≤ 5) : blockText mark escapes (n + 1) done cs =
      some (.ofList (done.reverse ++ List.replicate (run.length - 3) mark),
        cs.dropWhile (· == mark)) := by
  subst hrun
  rcases cs with - | ⟨c, cs⟩
  · exact absurd hfew (by simp [marks])
  have hmark : c = mark := by
    by_contra hmark
    rw [marks, List.takeWhile_cons_of_neg (by simpa using hmark)] at hfew
    exact absurd hfew (by simp)
  rw [blockText, if_pos hmark, ← drop_takeWhile]
  exact (if_neg (not_lt.mpr hfew)).trans (if_pos hmany)

/-- A text over many lines ends with its marks, or has a further piece. -/
theorem blockText_succ_eq_some_iff : blockText mark escapes (n + 1) done cs = some (w, rest) ↔
    (∃ run, (3 ≤ run.length ∧ run.length ≤ 5 ∧
        w = .ofList (done.reverse ++ List.replicate (run.length - 3) mark)) ∧
          marks mark cs = run ∧ cs.dropWhile (· == mark) = rest) ∨
      ∃ part mid, Piece mark escapes part cs mid ∧
        blockText mark escapes n (part.reverse ++ done) mid = some (w, rest) := by
  constructor
  · intro h
    rcases cs with - | ⟨c, cs⟩
    · exact absurd h (by simp [blockText])
    by_cases hmark : c = mark
    · rw [blockText, if_pos hmark] at h
      dsimp only at h
      split_ifs at h with hfew hmany
      · exact .inr ⟨[c], cs, .inr (.inl ⟨by rw [hmark], hfew, by rw [hmark]⟩), h⟩
      · obtain ⟨rfl, rfl⟩ := Prod.mk.inj (Option.some.inj h)
        exact .inl ⟨_, ⟨not_lt.mp hfew, hmany, rfl⟩, rfl, (drop_takeWhile _ _).symm⟩
    · exact .inr (exists_piece_of_ne h hmark)
  · rintro (⟨run, ⟨hfew, hmany, rfl⟩, hrun, rfl⟩ | ⟨part, mid, hpiece, h⟩)
    · exact blockText_of_marks hrun hfew hmany
    · rw [blockText_of_piece hpiece, h]

theorem steadyAt_blockText (hmark : mark ≠ '\n') (n : ℕ) (done : List Char) (w : String) :
    SteadyAt (fun m cs rest => blockText mark escapes m done cs = some (w, rest)) n := by
  induction n generalizing done with
  | zero => exact .of_forall_not fun _ _ => by simp [blockText]
  | succ n ih =>
    have hother : (fun c => c == mark) '\n' = false := beq_eq_false_iff_ne.mpr hmark.symm
    refine .succ (fun _ _ _ => blockText_succ_eq_some_iff) (.or ?_ ?_)
    · exact .exists fun run => .and fun _ => steadyAt_takeWhile hother run
    · exact .exists fun part => (steadyAt_piece hmark).comp (ih (part.reverse ++ done))

/-! ## Quoted texts of any kind -/

theorem dropFirstBreak_suffix (cs : List Char) : dropFirstBreak cs <:+ cs := by
  cases h : lineBreak? cs with
  | none => simp [dropFirstBreak, h]
  | some rest => simpa [dropFirstBreak, h] using lineBreak?_suffix h

theorem steadyAt_dropFirstBreak :
    SteadyAt (fun _ cs rest => rest ≠ [] ∧ dropFirstBreak cs = rest) n where
  suffix := by
    rintro cs _ ⟨-, rfl⟩
    exact dropFirstBreak_suffix cs
  ne_nil := fun hread _ => hread.1
  append := by
    rintro cs _ ⟨hne, rfl⟩ hends m hm more
    refine ⟨by simp [hne], ?_⟩
    rw [dropFirstBreak, dropFirstBreak, lineBreak?_append hends]
    cases lineBreak? cs <;> rfl

/-- The marks of quoted texts, and whether they hold escapes. -/
def quotes : List (Char × Bool) := [('"', true), ('\'', false)]

theorem ne_of_mem_quotes (h : (mark, escapes) ∈ quotes) : mark ≠ '\n' := by
  rintro rfl
  exact absurd h (by cases escapes <;> decide)

theorem quotedText?_of_block {text : List Char} (h : (mark, escapes) ∈ quotes) :
    quotedText? (mark :: ([mark, mark] ++ text)) =
      blockText mark escapes (text.length + 4) [] (dropFirstBreak text) := by
  simp only [quotes, List.mem_cons, Prod.mk.injEq, List.not_mem_nil, or_false] at h
  rcases h with ⟨rfl, rfl⟩ | ⟨rfl, rfl⟩ <;> rfl

theorem quotedText?_of_line {tail : List Char} (h : (mark, escapes) ∈ quotes)
    (htail : ¬[mark, mark] <+: tail) :
    quotedText? (mark :: tail) = lineText mark escapes (tail.length + 2) [] tail := by
  have hother (text : List Char) : tail ≠ mark :: mark :: text := by
    rintro rfl
    exact htail (List.prefix_append [mark, mark] text)
  simp only [quotes, List.mem_cons, Prod.mk.injEq, List.not_mem_nil, or_false] at h
  rcases h with ⟨rfl, rfl⟩ | ⟨rfl, rfl⟩
  · rw [quotedText?]
    · rfl
    · exact hother
  · rw [quotedText?]
    · rfl
    · exact hother

theorem quotedText?_eq_some_iff : quotedText? cs = some (w, rest) ↔
    ∃ mark escapes, (mark, escapes) ∈ quotes ∧ ∃ tail, cs = mark :: tail ∧
      ((∃ text, tail = [mark, mark] ++ text ∧
          blockText mark escapes (text.length + 4) [] (dropFirstBreak text) = some (w, rest)) ∨
        ¬[mark, mark] <+: tail ∧
          lineText mark escapes (tail.length + 2) [] tail = some (w, rest)) := by
  constructor
  · intro h
    obtain ⟨mark, escapes, tail, hquote, rfl⟩ :
        ∃ mark escapes tail, (mark, escapes) ∈ quotes ∧ cs = mark :: tail := by
      unfold quotedText? at h
      split at h
      · exact ⟨'"', true, _, by decide, rfl⟩
      · exact ⟨'\'', false, _, by decide, rfl⟩
      · exact ⟨'"', true, _, by decide, rfl⟩
      · exact ⟨'\'', false, _, by decide, rfl⟩
      · exact absurd h (by simp)
    refine ⟨mark, escapes, hquote, tail, rfl, ?_⟩
    by_cases hblock : [mark, mark] <+: tail
    · obtain ⟨text, rfl⟩ := hblock
      exact .inl ⟨text, rfl, (quotedText?_of_block hquote).symm.trans h⟩
    · exact .inr ⟨hblock, (quotedText?_of_line hquote hblock).symm.trans h⟩
  · rintro ⟨mark, escapes, hquote, tail, rfl, ⟨text, rfl, h⟩ | ⟨hline, h⟩⟩
    · exact (quotedText?_of_block hquote).trans h
    · exact (quotedText?_of_line hquote hline).trans h

theorem steadyAt_quotedText? (w : String) :
    SteadyAt (fun _ cs rest => quotedText? cs = some (w, rest)) n := by
  refine .of_iff (fun _ _ _ => quotedText?_eq_some_iff)
    (.exists fun mark => .exists fun escapes => .and fun hquote => ?_)
  have hmark := ne_of_mem_quotes hquote
  have hmarks : '\n' ∉ [mark, mark] := by simpa using hmark.symm
  have hblock (n : ℕ) : SteadyAt (fun m cs rest =>
      blockText mark escapes m [] (dropFirstBreak cs) = some (w, rest)) n :=
    steadyAt_dropFirstBreak.after_of_ne_nil (by simp [blockText_nil])
      (steadyAt_blockText hmark n [] w)
  have hline (n : ℕ) : SteadyAt (fun m cs rest =>
      lineText mark escapes m [] cs = some (w, rest)) n := steadyAt_lineText hmark n [] w
  refine (steadyAt_cons hmark).comp (.or ?_ ?_)
  · exact (steadyAt_line hmarks).comp (.ofLength (k := (· + 4)) (add_left_mono) hblock n)
  · exact .ahead (fun cs hends h => hends.not_prefix_append hmarks h)
      (.ofLength (k := (· + 2)) add_left_mono hline n)

end CaseRouting.Toml
