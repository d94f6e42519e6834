import CaseRouting.Proofs.Json.Texts

/-!
# Steps of the reader

What the reader does with the parts of a value, with any text left after them. Blanks in front of a
part make no difference. A number is read up to a text with which it does not go on, and a bracket,
a brace or a comma leads to the part behind it.
-/

namespace CaseRouting.Json

variable {fuel : ℕ} {blanks cs rest : List Char}

/-! ## Numbers -/

/-- A number does not go on with this text. -/
def EndsNumber (rest : List Char) : Prop :=
  ∀ c ∈ rest.head?, c.isDigit = false ∧ c ∉ ['.', 'e', 'E']

theorem endsNumber_nil : EndsNumber [] := fun _ hc => absurd hc (by simp)

theorem endsNumber_cons {c : Char} (hdigit : c.isDigit = false) (hc : c ∉ ['.', 'e', 'E']) :
    EndsNumber (c :: rest) := by
  rintro d hd
  obtain rfl : c = d := by simpa using hd
  exact ⟨hdigit, hc⟩

/-- Only zero begins with a zero. -/
theorem head?_toDigits_ne {n : ℕ} (h : n ≠ 0) : (Nat.toDigits 10 n).head? ≠ some '0' := by
  induction n using Nat.strong_induction_on with
  | _ n ih =>
    rcases Nat.lt_or_ge n 10 with hn | hn
    · rw [Nat.toDigits_of_lt_base hn]
      interval_cases n <;> first | exact absurd rfl h | decide
    · rw [Nat.toDigits_of_base_le (by decide) hn, List.head?_append_of_ne_nil _ Nat.toDigits_ne_nil]
      exact ih (n / 10) (by omega) (by omega)

/-- A number that can be held is taken digit by digit. -/
theorem foldl_pushWhole_toDigits {n : ℕ} (h : n < Nat.pow 2 64) :
    (Nat.toDigits 10 n).foldl Significand.pushWhole ⟨0, 0, false⟩ = ⟨n, 0, false⟩ := by
  have hpush (m d : ℕ) (hd : d < 10) (hm : m * 10 + d < Nat.pow 2 64) :
      (⟨m, 0, false⟩ : Significand).pushWhole d.digitChar = ⟨m * 10 + d, 0, false⟩ := by
    simp [Significand.pushWhole, Significand.takes, Text.digitValue_digitChar hd, hm]
  induction n using Nat.strong_induction_on with
  | _ n ih =>
    rcases Nat.lt_or_ge n 10 with hn | hn
    · rw [Nat.toDigits_of_lt_base hn, List.foldl_cons, List.foldl_nil, hpush 0 n hn (by omega)]
      simp
    · have hnumber : n / 10 * 10 + n % 10 = n := by omega
      rw [Nat.toDigits_of_base_le (by decide) hn, List.foldl_append,
        ih (n / 10) (by omega) (by omega), List.foldl_cons, List.foldl_nil, hpush _ _ (Nat.mod_lt n (by decide)) (by omega), hnumber]

theorem endsNumber_append (h : ∀ c ∈ blanks, isSpace c = true) (hrest : EndsNumber rest) :
    EndsNumber (blanks ++ rest) := by
  cases blanks with
  | nil => exact hrest
  | cons c blanks =>
    have hc : isSpace c = true := h c List.mem_cons_self
    simp only [isSpace, Bool.or_eq_true, beq_iff_eq] at hc
    rcases hc with ((rfl | rfl) | rfl) | rfl <;> exact endsNumber_cons (by decide) (by decide)

theorem isDigit_of_mem_toDigits {n : ℕ} {c : Char} (h : c ∈ Nat.toDigits 10 n) :
    c.isDigit = true :=
  Nat.isDigit_of_mem_toDigits (by decide) (by decide) h

theorem readNumberTail_of_endsNumber (hrest : EndsNumber rest) (digits : List Char) :
    readNumberTail false digits none rest = (.number (numberOf false digits none none), rest) := by
  unfold readNumberTail
  cases rest with
  | nil => rfl
  | cons c rest =>
    obtain ⟨_, hc⟩ := hrest c rfl
    rw [List.mem_cons, List.mem_cons, List.mem_singleton] at hc
    have hmark : ¬(decide (c = 'e') || decide (c = 'E')) = true := by
      rw [Bool.or_eq_true, decide_eq_true_eq, decide_eq_true_eq]
      exact fun h => hc (.inr h)
    exact if_neg hmark

theorem readNumber_toDigits {n : ℕ} (h : n < Nat.pow 2 64) (hrest : EndsNumber rest) :
    readNumber false (Nat.toDigits 10 n ++ rest) = (.ofInt n, rest) := by
  have htake : (Nat.toDigits 10 n ++ rest).takeWhile Char.isDigit = Nat.toDigits 10 n := by
    rw [List.takeWhile_append_of_pos fun c hc => isDigit_of_mem_toDigits hc]
    cases rest with
    | nil => rw [List.takeWhile_nil, List.append_nil]
    | cons c rest =>
      rw [List.takeWhile_cons_of_neg (by simp [(hrest c rfl).1]), List.append_nil]
  have hwhole : ¬((Nat.toDigits 10 n).isEmpty || decide ((Nat.toDigits 10 n).length ≠ 1) &&
      decide ((Nat.toDigits 10 n).head? = some '0')) = true := by
    rcases Nat.eq_zero_or_pos n with rfl | hn
    · decide
    · simp [head?_toDigits_ne (Nat.ne_of_gt hn)]
  have hnumber : numberOf false (Nat.toDigits 10 n) none none = some (.whole n) := by
    simp [numberOf, foldl_pushWhole_toDigits h]
  have hpoint : readNumberTail false (Nat.toDigits 10 n) none rest = (.ofInt n, rest) := by
    rw [readNumberTail_of_endsNumber hrest, hnumber]
    rfl
  unfold readNumber
  dsimp only
  rw [htake, if_neg hwhole, List.drop_left]
  split
  · next more => exact absurd (by decide) (hrest '.' rfl).2
  · exact hpoint

/-! ## Steps of the reader -/

theorem skipSpaces_cons {c : Char} (h : isSpace c = false) : skipSpaces (c :: cs) = c :: cs :=
  List.dropWhile_cons_of_neg (by simp [h])

theorem skipSpaces_append (h : ∀ c ∈ blanks, isSpace c = true) (cs : List Char) :
    skipSpaces (blanks ++ cs) = skipSpaces cs :=
  List.dropWhile_append_of_pos h

theorem readValue_append (h : ∀ c ∈ blanks, isSpace c = true) (fuel : ℕ) (cs : List Char) :
    readValue fuel (blanks ++ cs) = readValue fuel cs := by
  cases fuel with
  | zero => rw [readValue, readValue]
  | succ fuel => rw [readValue, readValue, skipSpaces_append h]

theorem readItems_append (h : ∀ c ∈ blanks, isSpace c = true) (fuel : ℕ) (cs : List Char) :
    readItems fuel (blanks ++ cs) = readItems fuel cs := by
  cases fuel with
  | zero => rw [readItems, readItems]
  | succ fuel => rw [readItems, readItems, readValue_append h]

theorem readMembers_append (h : ∀ c ∈ blanks, isSpace c = true) (fuel : ℕ) (cs : List Char) :
    readMembers fuel (blanks ++ cs) = readMembers fuel cs := by
  cases fuel with
  | zero => rw [readMembers, readMembers]
  | succ fuel => rw [readMembers, readMembers, readValue_append h]

theorem ne_of_isDigit {c mark : Char} (hc : c.isDigit = true) (hmark : mark.isDigit = false) :
    c ≠ mark := by
  rintro rfl
  simp [hc] at hmark

theorem isSpace_of_isDigit {c : Char} (hc : c.isDigit = true) : isSpace c = false := by
  have hblank : c ≠ ' ' := ne_of_isDigit hc (by decide)
  have hline : c ≠ '\n' := ne_of_isDigit hc (by decide)
  have htab : c ≠ '\t' := ne_of_isDigit hc (by decide)
  have hreturn : c ≠ '\r' := ne_of_isDigit hc (by decide)
  simp [isSpace, hblank, hline, htab, hreturn]

theorem readValue_toDigits {n : ℕ} (h : n < Nat.pow 2 64) (hrest : EndsNumber rest) :
    readValue (fuel + 1) (Nat.toDigits 10 n ++ rest) = (.ofInt n, rest) := by
  have hread := readNumber_toDigits h hrest
  obtain ⟨c, digits, hdigits⟩ : ∃ c digits, Nat.toDigits 10 n = c :: digits :=
    List.exists_cons_of_ne_nil Nat.toDigits_ne_nil
  have hc : c.isDigit = true := isDigit_of_mem_toDigits (hdigits ▸ List.mem_cons_self)
  have hquote : c ≠ '"' := ne_of_isDigit hc (by decide)
  have hbracket : c ≠ '[' := ne_of_isDigit hc (by decide)
  have hbrace : c ≠ '\x7b' := ne_of_isDigit hc (by decide)
  have hminus : c ≠ '-' := ne_of_isDigit hc (by decide)
  rw [hdigits, List.cons_append] at hread ⊢
  rw [readValue, skipSpaces_cons (isSpace_of_isDigit hc)]
  simp only [if_neg hquote, if_neg hbracket, if_neg hbrace, if_neg hminus, if_pos hc, hread]

theorem readValue_bracket (h : ∀ c ∈ blanks, isSpace c = true) {c : Char} (hspace : isSpace c = false)
    (hc : c ≠ ']') :
    readValue (fuel + 1) ('[' :: (blanks ++ c :: cs)) =
      (.array (readItems fuel (c :: cs)).1 (readItems fuel (c :: cs)).2.1,
        (readItems fuel (c :: cs)).2.2) := by
  rw [readValue, skipSpaces_cons (by decide)]
  simp [skipSpaces_append h, skipSpaces_cons hspace, hc]

theorem readValue_brace (h : ∀ c ∈ blanks, isSpace c = true) :
    readValue (fuel + 1) ('\x7b' :: (blanks ++ '"' :: cs)) =
      (.object (readMembers fuel ('"' :: cs)).1 (readMembers fuel ('"' :: cs)).2.1,
        (readMembers fuel ('"' :: cs)).2.2) := by
  have hquote : skipSpaces ('"' :: cs) = '"' :: cs := skipSpaces_cons (by decide)
  rw [readValue, skipSpaces_cons (by decide)]
  simp [skipSpaces_append h, hquote]

theorem readItems_comma {d : Doc} (h : readValue fuel cs = (d, ',' :: rest)) :
    readItems (fuel + 1) cs = (d :: (readItems fuel rest).1, (readItems fuel rest).2) := by
  rw [readItems, h]
  rfl

theorem readItems_bracket {d : Doc} (hblank : ∀ c ∈ blanks, isSpace c = true)
    (h : readValue fuel cs = (d, blanks ++ ']' :: rest)) :
    readItems (fuel + 1) cs = ([d], true, rest) := by
  rw [readItems, h]
  dsimp only
  rw [skipSpaces_append hblank]
  rfl

theorem readMembers_comma {key d : Doc} {more : List Char}
    (hkey : readValue fuel cs = (key, ':' :: more)) (h : readValue fuel more = (d, ',' :: rest)) :
    readMembers (fuel + 1) cs =
      ((key, d) :: (readMembers fuel rest).1, (readMembers fuel rest).2) := by
  rw [readMembers, hkey]
  dsimp only
  rw [skipSpaces_cons (by decide)]
  simp only [h]
  rfl

theorem readMembers_brace {key d : Doc} {more : List Char}
    (hblank : ∀ c ∈ blanks, isSpace c = true) (hkey : readValue fuel cs = (key, ':' :: more))
    (h : readValue fuel more = (d, blanks ++ '\x7d' :: rest)) :
    readMembers (fuel + 1) cs = ([(key, d)], true, rest) := by
  rw [readMembers, hkey]
  dsimp only
  rw [skipSpaces_cons (by decide)]
  simp only [h]
  rw [skipSpaces_append hblank]
  rfl

end CaseRouting.Json
