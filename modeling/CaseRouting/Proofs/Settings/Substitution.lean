import CaseRouting.Settings.Load
import Mathlib.Data.List.TakeWhile
import Mathlib.Tactic

/-!
# References to the environment

A reference is replaced on its own, whatever follows it, if the text in front of it leaves no
reference open. An opening that is never closed takes the next reference into its own name, which is
the name of no variable that anyone would set, and so hides it.
-/

namespace CaseRouting.Settings

variable {env : Environment} {c : Char} {cs p s before name rest v : List Char}

def reference (name : List Char) : List Char := '$' :: '\x7b' :: name ++ ['\x7d']

def replacement (env : Environment) (name : List Char) : List Char :=
  (lookUp env name).getD (reference name)

/-- What a reference may have between its braces. -/
def IsName (name : List Char) : Prop := name ≠ [] ∧ '\x7d' ∉ name

/-- The usual names of variables: letters, digits and underscores, and no digit first. -/
def isIdentifier : List Char → Bool
  | [] => false
  | c :: rest => (c.isAlpha || c == '_') && rest.all fun d => d.isAlphanum || d == '_'

/-- A reference begins in the text and does not end in it. -/
def LeavesOpen (text : List Char) : Prop :=
  ∃ before name, text = before ++ '$' :: '\x7b' :: name ∧ '\x7d' ∉ name

theorem isName_of_isIdentifier (h : isIdentifier name = true) : IsName name := by
  rcases name with - | ⟨c, rest⟩
  · exact absurd h (by decide)
  · rw [isIdentifier, Bool.and_eq_true, List.all_eq_true] at h
    refine ⟨List.cons_ne_nil c rest, fun hmem => ?_⟩
    rcases List.mem_cons.mp hmem with rfl | hmem
    · exact absurd h.1 (by decide)
    · exact absurd (h.2 _ hmem) (by decide)

theorem reference_append (name rest : List Char) :
    reference name ++ rest = '$' :: '\x7b' :: (name ++ '\x7d' :: rest) := by
  simp [reference]

/-! ## One step of the replacement -/

theorem reference?_append (hname : '\x7d' ∉ name) (rest : List Char) :
    reference? (name ++ '\x7d' :: rest) = if name.isEmpty then none else some (name, rest) := by
  have hinside : ∀ c ∈ name, decide (c ≠ '\x7d') = true := by
    intro c hc
    exact decide_eq_true (ne_of_mem_of_not_mem hc hname)
  have htake : (name ++ '\x7d' :: rest).takeWhile (· ≠ '\x7d') = name := by
    rw [List.takeWhile_append_of_pos hinside, List.takeWhile_cons_of_neg (by decide),
      List.append_nil]
  simp only [reference?, htake, List.drop_left]

theorem reference?_of_isName (hname : IsName name) (rest : List Char) :
    reference? (name ++ '\x7d' :: rest) = some (name, rest) := by
  rw [reference?_append hname.2, if_neg (by simpa using hname.1)]

theorem reference?_of_not_mem (h : '\x7d' ∉ cs) : reference? cs = none := by
  have htake : cs.takeWhile (· ≠ '\x7d') = cs := by
    rw [List.takeWhile_eq_self_iff]
    intro c hc
    exact decide_eq_true (ne_of_mem_of_not_mem hc h)
  simp only [reference?, htake, List.drop_length]

theorem reference?_eq_some_iff :
    reference? cs = some (name, rest) ↔ IsName name ∧ cs = name ++ '\x7d' :: rest := by
  constructor
  · intro h
    have hmem : '\x7d' ∈ cs := by
      by_contra hmem
      exact absurd ((reference?_of_not_mem hmem).symm.trans h) (by simp)
    obtain ⟨first, after, rfl, hfirst⟩ := List.eq_append_cons_of_mem hmem
    rw [reference?_append hfirst] at h
    split at h
    · exact absurd h (by simp)
    · next hne =>
      obtain ⟨rfl, rfl⟩ := Prod.mk.inj (Option.some.inj h)
      exact ⟨⟨by simpa using hne, hfirst⟩, rfl⟩
  · rintro ⟨hname, rfl⟩
    exact reference?_of_isName hname rest

theorem substitute_reference (hname : IsName name) (rest : List Char) :
    substitute env (reference name ++ rest) = replacement env name ++ substitute env rest := by
  have hread := reference?_of_isName hname rest
  rw [reference_append, substitute]
  split
  · next first after h =>
    obtain ⟨rfl, rfl⟩ := Prod.mk.inj (Option.some.inj (hread.symm.trans h))
    rfl
  · next h => exact absurd (hread.symm.trans h) (by simp)

/-- A character with which no reference begins is kept. -/
theorem substitute_cons (h : ∀ name rest, IsName name → c :: cs ≠ reference name ++ rest) :
    substitute env (c :: cs) = c :: substitute env cs := by
  rw [substitute.eq_def env (c :: cs)]
  split
  · next rest heq =>
    obtain ⟨rfl, rfl⟩ := List.cons.inj heq
    split
    · next name after hread =>
      obtain ⟨hname, rfl⟩ := reference?_eq_some_iff.mp hread
      exact absurd (reference_append name after).symm (h name after hname)
    · rfl
  · next heq =>
    obtain ⟨rfl, rfl⟩ := List.cons.inj heq
    rfl
  · next heq => exact absurd heq (List.cons_ne_nil c cs)

/-- A text is empty, or begins with a reference, or with a character that is kept. -/
@[elab_as_elim]
theorem text_induction {motive : List Char → Prop} (nil : motive [])
    (reference : ∀ name rest, IsName name → motive rest → motive (reference name ++ rest))
    (plain : ∀ c rest, (∀ name after, IsName name → c :: rest ≠ Settings.reference name ++ after) →
      motive rest → motive (c :: rest))
    (cs : List Char) : motive cs := by
  induction hlength : cs.length using Nat.strong_induction_on generalizing cs with
  | _ n ih =>
    rcases cs with - | ⟨c, tail⟩
    · exact nil
    · by_cases h : ∃ name rest, IsName name ∧ c :: tail = Settings.reference name ++ rest
      · obtain ⟨name, rest, hname, heq⟩ := h
        have hlt : rest.length < n := by
          rw [← hlength, heq, reference_append, List.length_cons, List.length_cons,
            List.length_append, List.length_cons]
          omega
        rw [heq]
        exact reference name rest hname (ih _ hlt rest rfl)
      · have hlt : tail.length < n := by
          rw [← hlength, List.length_cons]
          omega
        exact plain c tail (fun name rest hname heq => h ⟨name, rest, hname, heq⟩)
          (ih _ hlt tail rfl)

/-! ## References that are left open -/

/-- The text begins a reference and does not end it. -/
def beginsOpen : List Char → Bool
  | '$' :: '\x7b' :: name => !name.contains '\x7d'
  | _ => false

theorem leavesOpen_iff_beginsOpen : LeavesOpen p ↔ ∃ text ∈ p.tails, beginsOpen text = true := by
  constructor
  · rintro ⟨before, name, rfl, hname⟩
    exact ⟨'$' :: '\x7b' :: name, (List.mem_tails _ _).mpr (List.suffix_append _ _),
      by simpa [beginsOpen] using hname⟩
  · rintro ⟨text, htext, hopen⟩
    obtain ⟨before, rfl⟩ := (List.mem_tails _ _).mp htext
    unfold beginsOpen at hopen
    split at hopen
    · exact ⟨before, _, rfl, by simpa using hopen⟩
    · exact absurd hopen (by decide)

instance (text : List Char) : Decidable (LeavesOpen text) :=
  decidable_of_iff _ leavesOpen_iff_beginsOpen.symm

theorem LeavesOpen.append_left (h : LeavesOpen s) (p : List Char) : LeavesOpen (p ++ s) := by
  obtain ⟨before, name, rfl, hname⟩ := h
  exact ⟨p ++ before, name, by rw [List.append_assoc], hname⟩

/-- Before the first reference that is left open, none is. -/
theorem LeavesOpen.exists_first (h : LeavesOpen p) :
    ∃ before name, p = before ++ '$' :: '\x7b' :: name ∧ '\x7d' ∉ name ∧ ¬LeavesOpen before := by
  obtain ⟨before, name, rfl, hname⟩ := h
  induction hlength : before.length using Nat.strong_induction_on generalizing before name with
  | _ n ih =>
    by_cases hbefore : LeavesOpen before
    · obtain ⟨earlier, inner, rfl, hinner⟩ := hbefore
      have hname' : '\x7d' ∉ inner ++ '$' :: '\x7b' :: name := by
        simp [hinner, hname]
      have hlt : earlier.length < n := by
        rw [← hlength, List.length_append, List.length_cons]
        omega
      have := ih _ hlt earlier (inner ++ '$' :: '\x7b' :: name) hname' rfl
      simpa using this
    · exact ⟨before, name, rfl, hname, hbefore⟩

/-- What begins no reference in such a text begins none with more text behind it. -/
theorem ne_reference_append_of_not_leavesOpen (hp : ¬LeavesOpen (c :: cs))
    (hs : s.head? ≠ some '\x7b')
    (hplain : ∀ name rest, IsName name → c :: cs ≠ reference name ++ rest) (hname : IsName name) :
    c :: cs ++ s ≠ reference name ++ rest := by
  intro heq
  rw [reference_append, List.cons_append, List.cons.injEq] at heq
  obtain ⟨rfl, heq⟩ := heq
  rcases cs with - | ⟨d, inner⟩
  · rw [List.nil_append] at heq
    exact hs (by rw [heq, List.head?_cons])
  · rw [List.cons_append, List.cons.injEq] at heq
    obtain ⟨rfl, heq⟩ := heq
    have hclosed : '\x7d' ∈ inner := by
      by_contra hopen
      exact hp ⟨[], inner, rfl, hopen⟩
    obtain ⟨first, after, rfl, hfirst⟩ := List.eq_append_cons_of_mem hclosed
    -- Both texts are read from the opening up to the same brace.
    have hread := reference?_of_isName hname rest
    rw [← heq, List.append_assoc, List.cons_append, reference?_append hfirst] at hread
    split at hread
    · exact absurd hread (by simp)
    · obtain ⟨rfl, -⟩ := Prod.mk.inj (Option.some.inj hread)
      exact hplain _ _ hname (reference_append _ _).symm

/-- A text that leaves no reference open is replaced on its own, before anything that does not
complete its last character to an opening. -/
theorem substitute_append (hp : ¬LeavesOpen p) (hs : s.head? ≠ some '\x7b') :
    substitute env (p ++ s) = substitute env p ++ substitute env s := by
  induction p using text_induction with
  | nil => rw [substitute, List.nil_append, List.nil_append]
  | reference name rest hname ih =>
    rw [List.append_assoc, substitute_reference hname, substitute_reference hname,
      ih fun h => hp (h.append_left _), List.append_assoc]
  | plain c rest hplain ih =>
    have hkept : substitute env (c :: (rest ++ s)) = c :: substitute env (rest ++ s) :=
      substitute_cons fun _ _ => ne_reference_append_of_not_leavesOpen hp hs hplain
    rw [List.cons_append, hkept, substitute_cons hplain, ih fun h => hp (h.append_left [c]),
      List.cons_append]

/-- A text in which no variable is referred to that is set stays as it is. -/
theorem substitute_eq_self
    (h : ∀ name, IsName name → reference name <:+: cs → lookUp env name = none) :
    substitute env cs = cs := by
  induction cs using text_induction with
  | nil => rw [substitute]
  | reference name rest hname ih =>
    have hrest : substitute env rest = rest := ih fun name' hname' hin =>
      h name' hname' (hin.trans (List.suffix_append _ _).isInfix)
    rw [substitute_reference hname, hrest, replacement,
      h name hname (List.prefix_append _ _).isInfix, Option.getD_none]
  | plain c rest hplain ih =>
    rw [substitute_cons hplain, ih fun name hname hin =>
      h name hname (hin.trans (List.suffix_cons c rest).isInfix)]

/-! ## A reference in a text -/

theorem head?_reference_append (name rest : List Char) :
    (reference name ++ rest).head? = some '$' := rfl

theorem substitute_append_reference (hp : ¬LeavesOpen p) (hname : IsName name) (s : List Char) :
    substitute env (p ++ reference name ++ s) =
      substitute env p ++ replacement env name ++ substitute env s := by
  rw [List.append_assoc, substitute_append hp (by rw [head?_reference_append]; decide),
    substitute_reference hname, List.append_assoc]

/-- The text from an opening on that is never closed stays as it is. -/
theorem substitute_open (hbefore : ¬LeavesOpen before) (hopen : '\x7d' ∉ rest) :
    substitute env (before ++ '$' :: '\x7b' :: rest) =
      substitute env before ++ '$' :: '\x7b' :: rest := by
  have hself : substitute env ('$' :: '\x7b' :: rest) = '$' :: '\x7b' :: rest := by
    refine substitute_eq_self fun name _ hin => ?_
    have hbrace : '\x7d' ∈ '$' :: '\x7b' :: rest := hin.subset (by simp [reference])
    simp [hopen] at hbrace
  rw [substitute_append hbefore (by rw [List.head?_cons]; decide), hself]

/-- A reference that is left open takes the next one into its name. -/
theorem substitute_open_reference (hbefore : ¬LeavesOpen before) (hopen : '\x7d' ∉ rest)
    (hname : IsName name) (s : List Char) :
    substitute env (before ++ '$' :: '\x7b' :: rest ++ reference name ++ s) =
      substitute env before ++ replacement env (rest ++ '$' :: '\x7b' :: name) ++
        substitute env s := by
  have hlonger : IsName (rest ++ '$' :: '\x7b' :: name) := by
    refine ⟨List.append_ne_nil_of_right_ne_nil _ (List.cons_ne_nil _ _), ?_⟩
    simp [hopen, hname.2]
  rw [← substitute_append_reference hbefore hlonger]
  congr 1
  simp [reference]

/-- A reference is replaced by what it stands for and by nothing else, whatever is around it, exactly
when the text in front of it leaves no reference open, or the longer reference that it then ends
happens to stand for the same text. A text without references to variables that are set stays as it
is. -/
theorem substitute_append_reference_iff (hname : isIdentifier name = true) (env : Environment)
    (p s : List Char) :
    (substitute env (p ++ reference name ++ s) =
        substitute env p ++ replacement env name ++ substitute env s ↔
      ¬LeavesOpen p ∨ ∃ before rest, p = before ++ '$' :: '\x7b' :: rest ∧ '\x7d' ∉ rest ∧
        ¬LeavesOpen before ∧ replacement env (rest ++ '$' :: '\x7b' :: name) =
          '$' :: '\x7b' :: rest ++ replacement env name) ∧
      ∀ text, (∀ other, IsName other → reference other <:+: text → lookUp env other = none) →
        substitute env text = text := by
  have hname := isName_of_isIdentifier hname
  refine ⟨⟨fun h => ?_, ?_⟩, fun text => substitute_eq_self⟩
  · by_cases hp : LeavesOpen p
    · obtain ⟨before, rest, rfl, hopen, hbefore⟩ := hp.exists_first
      rw [substitute_open_reference hbefore hopen hname, substitute_open hbefore hopen,
        List.append_cancel_right_eq, List.append_assoc, List.append_cancel_left_eq] at h
      exact .inr ⟨before, rest, rfl, hopen, hbefore, h⟩
    · exact .inl hp
  · rintro (hp | ⟨before, rest, rfl, hopen, hbefore, hsame⟩)
    · exact substitute_append_reference hp hname s
    · rw [substitute_open_reference hbefore hopen hname, hsame, substitute_open hbefore hopen]
      simp only [List.append_assoc]

/-- A value that looks like a reference is not replaced again, and neither an empty reference nor a
dollar sign in front of a reference leaves anything open. -/
theorem substitute_token_reference :
    (isIdentifier "TOKEN".toList = true ∧ ¬LeavesOpen "a = '$\x7b\x7d' # $".toList) ∧
      substitute [("TOKEN", "$\x7bTOKEN\x7d")]
        ("a = '$\x7b\x7d' # $".toList ++ reference "TOKEN".toList ++ "\n# $\x7bTOKEN".toList) =
        "a = '$\x7b\x7d' # $$\x7bTOKEN\x7d\n# $\x7bTOKEN".toList := by
  have hname : isIdentifier "TOKEN".toList = true := by decide
  have hclosed : ¬LeavesOpen "a = '$\x7b\x7d' # $".toList := by decide
  refine ⟨⟨hname, hclosed⟩, ?_⟩
  rw [(substitute_append_reference_iff hname _ _ _).1.mpr (.inl hclosed)]
  decide +kernel

/-- An opening in a comment hides the reference in the setting below it. -/
theorem substitute_append_reference_not_always :
    ¬∀ (env : Environment) (p s name v : List Char), isIdentifier name = true →
      lookUp env name = some v →
        substitute env (p ++ reference name ++ s) = substitute env p ++ v ++ substitute env s := by
  intro h
  have hhidden := h [("TOKEN", "secret")] "# $\x7bNAME\napi_token = '".toList "'".toList
    "TOKEN".toList "secret".toList (by decide) (by decide)
  exact absurd hhidden (by decide +kernel)

end CaseRouting.Settings
