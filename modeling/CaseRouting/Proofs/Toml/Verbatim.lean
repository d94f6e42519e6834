import CaseRouting.Proofs.Toml.Lines

/-!
# Quoted texts that stand for themselves

Between the quotes of a line a text without quotes, backslashes and control characters stands for
itself. An escape only makes a text shorter, so no other text comes out of the quotes as it went in.
-/

namespace CaseRouting.Toml

variable {c : Char} {v cs rest done : List Char} {w : String} {n : ℕ}

/-! ## Texts on one line -/

/-- The characters of a text on one line that stand for themselves. -/
def isVerbatim (c : Char) : Bool := isPlain c && c ≠ '"' && c ≠ '\\'

theorem toNat_of_isAlphanum (h : c.isAlphanum = true) : 0x30 ≤ c.toNat ∧ c.toNat ≤ 0x7A := by
  rcases Bool.or_eq_true_iff.mp h with hletter | hdigit
  · rcases Bool.or_eq_true_iff.mp hletter with hupper | hlower
    · obtain ⟨hlow, hhigh⟩ := of_decide_eq_true hupper
      exact ⟨le_trans (by decide) (UInt32.le_iff_toNat_le.mp hlow),
        (UInt32.le_iff_toNat_le.mp hhigh).trans (by decide)⟩
    · obtain ⟨hlow, hhigh⟩ := Bool.and_eq_true_iff.mp hlower
      exact ⟨le_trans (by decide) (UInt32.le_iff_toNat_le.mp (of_decide_eq_true hlow)),
        UInt32.le_iff_toNat_le.mp (of_decide_eq_true hhigh)⟩
  · obtain ⟨hlow, hhigh⟩ := Char.isDigit_iff_toNat.mp hdigit
    exact ⟨hlow, hhigh.trans (by decide)⟩

theorem isVerbatim_of_isAlphanum (h : c.isAlphanum = true) : isVerbatim c = true := by
  have hquote : c ≠ '"' := by
    rintro rfl
    exact absurd h (by decide)
  have hslash : c ≠ '\\' := by
    rintro rfl
    exact absurd h (by decide)
  have hplain : 0x20 ≤ c.toNat ∧ c.toNat ≠ 0x7F := by
    have hrange := toNat_of_isAlphanum h
    omega
  simp [isVerbatim, isPlain, hquote, hslash, hplain]

theorem spelled_of_isVerbatim (h : isVerbatim c = true) (rest : List Char) :
    Spelled '"' true c (c :: rest) rest := by
  simp only [isVerbatim, Bool.and_eq_true, decide_eq_true_eq] at h
  exact .inl ⟨⟨h.1.2, by simpa using h.2, h.1.1⟩, rfl⟩

theorem lineText_of_verbatim (hv : ∀ c ∈ v, isVerbatim c = true) (hn : v.length < n) :
    lineText '"' true n done (v ++ '"' :: rest) = some (.ofList (done.reverse ++ v), rest) := by
  induction v generalizing n done with
  | nil =>
    obtain ⟨n, rfl⟩ := Nat.exists_eq_add_of_le' hn
    exact lineText_succ_eq_some_iff.mpr (.inl ⟨by simp, rfl⟩)
  | cons c v ih =>
    obtain ⟨n, rfl⟩ := Nat.exists_eq_add_of_le' (Nat.zero_lt_of_lt hn)
    obtain ⟨hc, hv⟩ := List.forall_mem_cons.mp hv
    rw [List.cons_append, lineText_of_spelled (spelled_of_isVerbatim hc _),
      ih hv (by simpa using hn)]
    simp

theorem quotedText?_of_verbatim (hv : ∀ c ∈ v, isVerbatim c = true)
    (hrest : v ≠ [] ∨ rest.head? ≠ some '"') :
    quotedText? ('"' :: (v ++ '"' :: rest)) = some (.ofList v, rest) := by
  have hline : ¬['"', '"'] <+: v ++ '"' :: rest := by
    rintro ⟨text, heq⟩
    rcases v with - | ⟨c, v⟩
    · obtain rfl := (List.cons.inj heq).2
      exact hrest.elim (fun h => h rfl) (fun h => h rfl)
    · obtain rfl : '"' = c := (List.cons.inj heq).1
      exact absurd (hv '"' List.mem_cons_self) (by decide)
  have hquote : ('"', true) ∈ quotes := by decide
  rw [quotedText?_of_line hquote hline, lineText_of_verbatim hv (by simp; omega)]
  rfl

/-! ## Lines with quoted texts -/

theorem skipSpaces_of_isKeyChar {letters : List Char} (hne : letters ≠ [])
    (hkey : ∀ c ∈ letters, isKeyChar c = true) (rest : List Char) :
    skipSpaces (letters ++ rest) = letters ++ rest := by
  obtain ⟨c, letters, rfl⟩ := List.exists_cons_of_ne_nil hne
  have hletter : isKeyChar c = true := hkey c List.mem_cons_self
  refine List.dropWhile_cons_of_neg fun hspace => ?_
  simp only [isSpace, Bool.or_eq_true, beq_iff_eq] at hspace
  rcases hspace with rfl | rfl <;> exact absurd hletter (by decide)

theorem key?_of_isKeyChar {letters : List Char} (hne : letters ≠ [])
    (hkey : ∀ c ∈ letters, isKeyChar c = true) (rest : List Char) :
    key? (n + 1) (letters ++ ' ' :: '=' :: rest) = some (([], .ofList letters), '=' :: rest) := by
  have htake : (letters ++ ' ' :: '=' :: rest).takeWhile isKeyChar = letters := by
    rw [List.takeWhile_append_of_pos hkey, List.takeWhile_cons_of_neg (by decide), List.append_nil]
  have hdrop : (letters ++ ' ' :: '=' :: rest).dropWhile isKeyChar = ' ' :: '=' :: rest := by
    rw [List.dropWhile_append_of_pos hkey, List.dropWhile_cons_of_neg (by decide)]
  have hpart : keyPart? (skipSpaces (letters ++ ' ' :: '=' :: rest)) =
      some (.ofList letters, ' ' :: '=' :: rest) := by
    rw [skipSpaces_of_isKeyChar hne hkey, keyPart?_of_takeWhile (htake.symm ▸ hne), htake, hdrop]
  have hend : skipSpaces (' ' :: '=' :: rest) = '=' :: rest := rfl
  exact key?_succ_eq_some_iff.mpr ⟨_, _, hpart, .inr ⟨⟨rfl, rfl⟩, by simp [hend], hend⟩⟩

def textLine (key text : String) : List Char :=
  key.toList ++ ' ' :: '=' :: ' ' :: '"' :: (text.toList ++ ['"', '\n'])

theorem begins_textLine {key text : String} (hne : key.toList ≠ [])
    (hkey : ∀ c ∈ key.toList, isKeyChar c = true)
    (htext : ∀ c ∈ text.toList, isVerbatim c = true) :
    (Statement.setting [] key (.ofText text)).Begins (textLine key text) ['\n'] := by
  have hquoted : quotedText? ('"' :: (text.toList ++ '"' :: ['\n'])) = some (text, ['\n']) := by
    rw [quotedText?_of_verbatim htext (.inr (by simp)), String.ofList_toList]
  refine begins_of_quoted (' ' :: '"' :: (text.toList ++ ['"', '\n'])) ?_ hquoted
  rw [textLine, skipSpaces_of_isKeyChar hne hkey, key?_of_isKeyChar hne hkey, String.ofList_toList]

theorem readLines_textLine {key text : String} (hne : key.toList.isEmpty = false)
    (hkey : key.toList.all isKeyChar = true) (htext : text.toList.all isVerbatim = true)
    (p : Progress) (more : List Char) :
    readLines p (textLine key text ++ more) =
      ((Statement.setting [] key (.ofText text)).apply p).bind fun q => readLines q more :=
  readLines_line (begins_textLine (List.isEmpty_eq_false_iff.mp hne) (List.all_eq_true.mp hkey)
    (List.all_eq_true.mp htext)) p more

/-! ## Lengths of quoted texts -/

/-- A text is no longer than what it is read from, and is the same only if it stands for itself. -/
theorem lineText_length (h : lineText '"' true n done cs = some (w, rest)) :
    w.toList.length + rest.length < done.length + cs.length ∧
      (done.length + cs.length ≤ w.toList.length + rest.length + 1 →
        ∃ taken, cs = taken ++ '"' :: rest ∧ ∀ c ∈ taken, isVerbatim c = true) := by
  induction n generalizing done cs with
  | zero => exact absurd h (by simp [lineText])
  | succ n ih =>
    rcases lineText_succ_eq_some_iff.mp h with ⟨rfl, rfl⟩ | ⟨c, mid, hspelled, h⟩
    · exact ⟨by simp, fun _ => ⟨[], rfl, by simp⟩⟩
    · obtain ⟨hlength, hsame⟩ := ih h
      rw [List.length_cons] at hlength hsame
      rcases hspelled with ⟨⟨hquote, hslash, hplain⟩, rfl⟩ | ⟨-, tail, rfl, hread⟩
      · rw [List.length_cons]
        refine ⟨by omega, fun hle => ?_⟩
        obtain ⟨taken, rfl, htaken⟩ := hsame (by omega)
        refine ⟨c :: taken, rfl, List.forall_mem_cons.mpr ⟨?_, htaken⟩⟩
        simpa [isVerbatim, hplain, hquote] using hslash
      · -- An escape takes more characters than it gives.
        have hlt := escape?_length_lt hread
        rw [List.length_cons]
        exact ⟨by omega, fun hle => by omega⟩

theorem blockText_length (h : blockText '"' true n done cs = some (w, rest)) :
    w.toList.length + rest.length + 3 ≤ done.length + cs.length := by
  induction n generalizing done cs with
  | zero => exact absurd h (by simp [blockText])
  | succ n ih =>
    rcases blockText_succ_eq_some_iff.mp h with
      ⟨run, ⟨hfew, -, rfl⟩, rfl, rfl⟩ | ⟨part, mid, hpiece, h⟩
    · have hsplit := congrArg List.length (cs.takeWhile_append_dropWhile (p := (· == '"')))
      rw [List.length_append] at hsplit
      simp only [marks, String.toList_ofList, List.length_append, List.length_reverse,
        List.length_replicate] at hfew ⊢
      omega
    · have hle := ih h
      have hpart := hpiece.length_le
      rw [List.length_append, List.length_reverse] at hle
      omega

/-- A value that comes out of the quotes as it went in stands for itself. -/
theorem isVerbatim_of_quotedText? (h : quotedText? ('"' :: (v ++ ['"'])) = some (.ofList v, rest)) :
    ∀ c ∈ v, isVerbatim c = true := by
  have hquote : ('"', true) ∈ quotes := by decide
  by_cases hblock : ['"', '"'] <+: v ++ ['"']
  · obtain ⟨text, htext⟩ := hblock
    rw [← htext, quotedText?_of_block hquote] at h
    have hlength := blockText_length h
    have hle := (dropFirstBreak_suffix text).length_le
    have htext := congrArg List.length htext
    simp at hlength htext
    omega
  · rw [quotedText?_of_line hquote hblock] at h
    obtain ⟨hlength, hsame⟩ := lineText_length h
    simp only [String.toList_ofList, List.length_nil, List.length_append,
      List.length_singleton] at hlength hsame
    obtain rfl : rest = [] := List.length_eq_zero_iff.mp (by omega)
    obtain ⟨taken, heq, htaken⟩ := hsame (by omega)
    rwa [List.append_cancel_right heq]

end CaseRouting.Toml
