import CaseRouting.Text.Case
import Mathlib.Tactic

/-!
# Lower case of a part of a text

All characters but the capital sigma are lower-cased on their own. The form of a capital sigma is
told by the nearest characters around it that count, which may stand outside of a part that is
looked at. Where both of them, or one that settles the matter, stand inside, the part has the same
lower case in every text.
-/

namespace CaseRouting.Text

variable {before before' after after' p s cs needle : List Char} {c x : Char}

/-! ## Contiguous parts -/

theorem hasInfix_iff {cs : List Char} : hasInfix needle cs = true ↔ needle <:+: cs := by
  induction cs with
  | nil => rw [hasInfix, List.isEmpty_iff, List.infix_nil]
  | cons c rest ih =>
    rw [hasInfix, Bool.or_eq_true, List.isPrefixOf_iff_prefix, ih, List.infix_cons_iff]

/-! ## Parts between other text -/

/-- The form of a capital sigma between two texts, the one before it in reverse. -/
def sigmaForm (before after : List Char) : Char := if endsWord before after then 'ς' else 'σ'

/-- The lower case of a part between two texts, the one before it in reverse. -/
def lowerWithin (before after : List Char) : List Char → List Char
  | [] => []
  | c :: rest =>
    (if c = 'Σ' then [sigmaForm before (rest ++ after)] else lowerChar c) ++
      lowerWithin (c :: before) after rest

theorem lowerFrom_eq_lowerWithin (before cs : List Char) :
    lowerFrom before cs = lowerWithin before [] cs := by
  induction cs generalizing before with
  | nil => rfl
  | cons c rest ih => rw [lowerFrom, lowerWithin, ih, List.append_nil, sigmaForm]

theorem lowerWithin_append (before after p s : List Char) :
    lowerWithin before after (p ++ s) =
      lowerWithin before (s ++ after) p ++ lowerWithin (p.reverse ++ before) after s := by
  induction p generalizing before with
  | nil => rfl
  | cons c rest ih =>
    rw [List.cons_append, lowerWithin, lowerWithin, ih, List.reverse_cons]
    simp only [List.append_assoc, List.cons_append, List.nil_append]

theorem toList_lower (s : String) : (lower s).toList = lowerWithin [] [] s.toList := by
  rw [lower, String.toList_ofList, lowerFrom_eq_lowerWithin]

theorem toList_lower_of_eq {title : String} (h : title.toList = p ++ needle ++ s) :
    (lower title).toList = lowerWithin [] (needle ++ s) p ++ lowerWithin p.reverse s needle ++
      lowerWithin (needle.reverse ++ p.reverse) [] s := by
  rw [toList_lower, h, List.append_assoc, lowerWithin_append, lowerWithin_append]
  simp only [List.append_nil, List.append_assoc]

/-- Parts with the same forms of their capital sigmas have the same lower case. -/
theorem lowerWithin_congr
    (h : ∀ b a, cs = b ++ 'Σ' :: a →
      sigmaForm (b.reverse ++ before) (a ++ after) = sigmaForm (b.reverse ++ before') (a ++ after')) :
    lowerWithin before after cs = lowerWithin before' after' cs := by
  induction cs generalizing before before' with
  | nil => rfl
  | cons c rest ih =>
    have hrest : lowerWithin (c :: before) after rest = lowerWithin (c :: before') after' rest := by
      apply ih
      intro b a hsplit
      simpa using h (c :: b) a (by rw [hsplit, List.cons_append])
    rw [lowerWithin, lowerWithin, hrest]
    by_cases hc : c = 'Σ'
    · have := h [] rest (by rw [hc, List.nil_append])
      simp only [List.reverse_nil, List.nil_append] at this
      rw [if_pos hc, if_pos hc, this]
    · rw [if_neg hc, if_neg hc]

/-- A form that a part shows wherever it shows it between other texts, it shows as often. -/
theorem count_lowerWithin_le
    (h : ∀ b a, cs = b ++ 'Σ' :: a → sigmaForm (b.reverse ++ before) (a ++ after) = x →
      sigmaForm (b.reverse ++ before') (a ++ after') = x) :
    (lowerWithin before after cs).count x ≤ (lowerWithin before' after' cs).count x := by
  induction cs generalizing before before' with
  | nil => exact le_rfl
  | cons c rest ih =>
    have hrest : (lowerWithin (c :: before) after rest).count x ≤
        (lowerWithin (c :: before') after' rest).count x := by
      apply ih
      intro b a hsplit
      simpa using h (c :: b) a (by rw [hsplit, List.cons_append])
    rw [lowerWithin, lowerWithin, List.count_append, List.count_append]
    by_cases hc : c = 'Σ'
    · have := h [] rest (by rw [hc, List.nil_append])
      simp only [List.reverse_nil, List.nil_append] at this
      rw [if_pos hc, if_pos hc, List.count_singleton, List.count_singleton]
      grind
    · rw [if_neg hc, if_neg hc]
      omega

/-- It shows it less often if there is a capital sigma that has this form only there. -/
theorem count_lowerWithin_lt {b a : List Char}
    (h : ∀ b a, cs = b ++ 'Σ' :: a → sigmaForm (b.reverse ++ before) (a ++ after) = x →
      sigmaForm (b.reverse ++ before') (a ++ after') = x)
    (hcs : cs = b ++ 'Σ' :: a) (hne : sigmaForm (b.reverse ++ before) (a ++ after) ≠ x)
    (heq : sigmaForm (b.reverse ++ before') (a ++ after') = x) :
    (lowerWithin before after cs).count x < (lowerWithin before' after' cs).count x := by
  subst hcs
  have hb : (lowerWithin before ('Σ' :: a ++ after) b).count x ≤
      (lowerWithin before' ('Σ' :: a ++ after') b).count x := by
    apply count_lowerWithin_le
    intro b' a' hsplit
    simpa using h b' (a' ++ 'Σ' :: a) (by rw [hsplit, List.append_assoc, List.cons_append])
  have ha : (lowerWithin ('Σ' :: (b.reverse ++ before)) after a).count x ≤
      (lowerWithin ('Σ' :: (b.reverse ++ before')) after' a).count x := by
    apply count_lowerWithin_le
    intro b' a' hsplit
    simpa using h (b ++ 'Σ' :: b') a' (by rw [hsplit, List.append_assoc, List.cons_append])
  rw [lowerWithin_append, lowerWithin_append, lowerWithin, lowerWithin, if_pos rfl, if_pos rfl]
  simp only [List.count_append, List.count_singleton, beq_iff_eq, heq, if_neg hne, if_true]
  omega

/-! ## The characters that tell the form -/

def neighbour (cs : List Char) : Option Char := (cs.dropWhile isCaseIgnorable).head?

theorem meetsLetter_eq (cs : List Char) : meetsLetter cs = (neighbour cs).any isCased := by
  rw [meetsLetter, neighbour]
  cases cs.dropWhile isCaseIgnorable <;> rfl

theorem neighbour_append (p s : List Char) : neighbour (p ++ s) = (neighbour p).or (neighbour s) := by
  induction p with
  | nil => rfl
  | cons c rest ih =>
    by_cases hc : isCaseIgnorable c = true
    · simpa only [neighbour, List.cons_append, List.dropWhile_cons_of_pos hc] using ih
    · simp only [neighbour, List.cons_append, List.dropWhile_cons_of_neg hc, List.head?_cons,
        Option.some_or]

/-- The characters around a capital sigma tell its form, whatever else is around them. -/
def isSettled (before after : List Char) : Bool :=
  match neighbour before, neighbour after with
  | some _, some _ => true
  | some c, none => !isCased c
  | none, some c => isCased c
  | none, none => false

/-- The forms of all capital sigmas are settled inside of the text. -/
def SigmasSettled (cs : List Char) : Prop :=
  ∀ b a, cs = b ++ 'Σ' :: a → isSettled b.reverse a = true

theorem sigmaForm_of_isSettled (h : isSettled before after = true) (p s : List Char) :
    sigmaForm (before ++ p) (after ++ s) = sigmaForm before after := by
  unfold isSettled at h
  simp only [sigmaForm, endsWord, meetsLetter_eq, neighbour_append]
  cases hb : neighbour before <;> cases ha : neighbour after <;> simp_all

theorem lowerWithin_of_sigmasSettled (h : SigmasSettled cs) (before after : List Char) :
    lowerWithin before after cs = lowerWithin [] [] cs := by
  apply lowerWithin_congr
  intro b a hsplit
  rw [sigmaForm_of_isSettled (h b a hsplit), List.append_nil, List.append_nil]

theorem neighbour_letter : neighbour ['a'] = some 'a' := by decide +kernel

theorem isCased_letter : isCased 'a' = true := by decide +kernel

theorem lowerWithin_letter (before after : List Char) : lowerWithin before after ['a'] = ['a'] :=
  rfl

/-- With a letter behind it, a text shows no final sigma that it does not show alone. -/
theorem sigmaForm_of_letter_behind (h : sigmaForm before (after ++ ['a']) = 'ς') :
    sigmaForm before after = 'ς' := by
  simp only [sigmaForm, endsWord, meetsLetter_eq, neighbour_append, neighbour_letter] at h ⊢
  cases hb : neighbour before <;> cases ha : neighbour after <;> simp_all [isCased_letter]

/-- With a letter before it, a text shows no other sigma that it does not show alone. -/
theorem sigmaForm_of_letter_before (h : sigmaForm (before ++ ['a']) after = 'σ') :
    sigmaForm before after = 'σ' := by
  simp only [sigmaForm, endsWord, meetsLetter_eq, neighbour_append, neighbour_letter] at h ⊢
  cases hb : neighbour before <;> cases ha : neighbour after <;> simp_all [isCased_letter]

/-- A form that is not settled changes with a letter at one of the ends. -/
theorem sigmaForm_of_not_isSettled (h : isSettled before after = false) :
    sigmaForm before after = 'ς' ∧ sigmaForm before (after ++ ['a']) = 'σ' ∨
      sigmaForm before after = 'σ' ∧ sigmaForm (before ++ ['a']) after = 'ς' := by
  unfold isSettled at h
  simp only [sigmaForm, endsWord, meetsLetter_eq, neighbour_append, neighbour_letter]
  cases hb : neighbour before <;> cases ha : neighbour after <;> simp_all [isCased_letter]

theorem not_infix_letter_behind {b a : List Char} (hcs : cs = b ++ 'Σ' :: a)
    (halone : sigmaForm b.reverse a = 'ς') (hchanged : sigmaForm b.reverse (a ++ ['a']) = 'σ') :
    ¬lowerWithin [] [] cs <:+: lowerWithin [] [] (cs ++ ['a']) := by
  intro hin
  have hlt : (lowerWithin [] ['a'] cs).count 'ς' < (lowerWithin [] [] cs).count 'ς' := by
    apply count_lowerWithin_lt _ hcs
    · simp [hchanged]
    · simpa using halone
    · intro b' a' _ hform
      simpa using sigmaForm_of_letter_behind (by simpa using hform)
  have hle := hin.sublist.count_le 'ς'
  rw [lowerWithin_append, List.append_nil, lowerWithin_letter, List.count_append] at hle
  have hletter : ['a'].count 'ς' = 0 := by decide
  omega

theorem not_infix_letter_before {b a : List Char} (hcs : cs = b ++ 'Σ' :: a)
    (halone : sigmaForm b.reverse a = 'σ') (hchanged : sigmaForm (b.reverse ++ ['a']) a = 'ς') :
    ¬lowerWithin [] [] cs <:+: lowerWithin [] [] ('a' :: cs) := by
  intro hin
  have hlt : (lowerWithin ['a'] [] cs).count 'σ' < (lowerWithin [] [] cs).count 'σ' := by
    apply count_lowerWithin_lt _ hcs
    · simp [hchanged]
    · simpa using halone
    · intro b' a' _ hform
      simpa using sigmaForm_of_letter_before (by simpa using hform)
  have hle := hin.sublist.count_le 'σ'
  rw [← List.singleton_append, lowerWithin_append, lowerWithin_letter, List.count_append] at hle
  have hletter : ['a'].count 'σ' = 0 := by decide
  simp only [List.reverse_singleton, List.singleton_append] at hle
  omega

/-- The lower case of a text is a part of that of every text around it exactly if the forms of its
capital sigmas are settled inside of it. -/
theorem lower_infix_iff_sigmasSettled (needle : String) :
    (∀ text : String, needle.toList <:+: text.toList →
        (lower needle).toList <:+: (lower text).toList) ↔
      SigmasSettled needle.toList := by
  constructor
  · intro h b a hsplit
    by_contra hopen
    rw [Bool.not_eq_true] at hopen
    rcases sigmaForm_of_not_isSettled hopen with ⟨halone, hchanged⟩ | ⟨halone, hchanged⟩
    · have hin := h (.ofList (needle.toList ++ ['a'])) (by
        rw [String.toList_ofList]
        exact (List.prefix_append _ _).isInfix)
      rw [toList_lower, toList_lower, String.toList_ofList] at hin
      exact not_infix_letter_behind hsplit halone hchanged hin
    · have hin := h (.ofList ('a' :: needle.toList)) (by
        rw [String.toList_ofList]
        exact (List.suffix_cons _ _).isInfix)
      rw [toList_lower, toList_lower, String.toList_ofList] at hin
      exact not_infix_letter_before hsplit halone hchanged hin
  · rintro h text ⟨p, s, hp⟩
    rw [toList_lower_of_eq hp.symm, toList_lower, lowerWithin_of_sigmasSettled h p.reverse]
    exact List.infix_append _ _ _

end CaseRouting.Text
