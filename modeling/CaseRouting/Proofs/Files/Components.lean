import CaseRouting.Files.Tree
import Mathlib.Data.List.TakeWhile
import Mathlib.Tactic

/-!
# Components of paths

What a path says, apart from how it is spelled: the slash or the dot it begins with, and its parts
that count. A path is that of its parent with its name behind, and a name that is joined to a path
comes last.
-/

namespace CaseRouting.Files

variable {path front body part name : List Char}

/-! ## Parts that count -/

/-- The parts between slashes that are neither empty nor a single dot. -/
def countedParts (body : List Char) : List (List Char) :=
  (body.splitOn '/').filter fun part => !isVoid part

theorem countedParts_append (front body : List Char) :
    countedParts (front ++ '/' :: body) = countedParts front ++ countedParts body := by
  rw [countedParts, List.splitOn_append_cons_self, List.filter_append]
  rfl

theorem countedParts_of_not_mem (h : '/' ∉ part) :
    countedParts part = if isVoid part then [] else [part] := by
  rw [countedParts, List.splitOn_eq_singleton h]
  cases hvoid : isVoid part <;> simp [hvoid]

theorem countedParts_of_isVoid (h : isVoid part = true) : countedParts part = [] := by
  simp only [isVoid, Bool.or_eq_true, beq_iff_eq] at h
  rcases h with rfl | rfl <;> rfl

theorem ne_nil_of_counts (h : isVoid part = false) : part ≠ [] := by
  rintro rfl
  exact absurd h (by decide)

theorem ne_dot_of_counts (h : isVoid part = false) : part ≠ ['.'] := by
  rintro rfl
  exact absurd h (by decide)

/-! ## The last part -/

section LastMark

variable {mark : Char}

/-- A text without a mark, or the texts around its last mark. -/
theorem lastMark_cases (mark : Char) (cs : List Char) :
    mark ∉ cs ∨ ∃ front part, cs = front ++ mark :: part ∧ mark ∉ part := by
  by_cases h : mark ∈ cs
  · obtain ⟨part, front, hrev, hpart⟩ := List.eq_append_cons_of_mem (List.mem_reverse.mpr h)
    refine .inr ⟨front.reverse, part.reverse, ?_, by simpa using hpart⟩
    rw [← List.reverse_reverse cs, hrev]
    simp
  · exact .inl h

theorem forall_mem_reverse_ne (h : mark ∉ part) :
    ∀ c ∈ part.reverse, decide (c ≠ mark) = true := by
  intro c hc
  have hne : c ≠ mark := fun heq => h (heq ▸ List.mem_reverse.mp hc)
  simpa using hne

theorem takeWhile_reverse_of_not_mem (h : mark ∉ part) :
    part.reverse.takeWhile (· ≠ mark) = part.reverse :=
  List.takeWhile_eq_self_iff.mpr (forall_mem_reverse_ne h)

theorem takeWhile_reverse_append (front : List Char) (h : mark ∉ part) :
    (front ++ mark :: part).reverse.takeWhile (· ≠ mark) = part.reverse := by
  rw [List.reverse_append, List.reverse_cons, List.append_assoc,
    List.takeWhile_append_of_pos (forall_mem_reverse_ne h)]
  simp

theorem take_before_mark (front part : List Char) (mark : Char) :
    (front ++ mark :: part).take ((front ++ mark :: part).length - part.length - 1) = front := by
  have hlength : (front ++ mark :: part).length - part.length - 1 = front.length := by
    simp only [List.length_append, List.length_cons]
    omega
  rw [hlength, List.take_left]

end LastMark

theorem lastPart_of_not_mem (h : '/' ∉ part) : lastPart part = ([], part) := by
  rw [lastPart, takeWhile_reverse_of_not_mem h]
  simp

theorem lastPart_append (front : List Char) (h : '/' ∉ part) :
    lastPart (front ++ '/' :: part) = (front, part) := by
  simp only [lastPart, takeWhile_reverse_append front h, List.reverse_reverse, take_before_mark]

theorem lastPart_isPrefix (body : List Char) : (lastPart body).1 <+: body := List.take_prefix _ _

theorem trimBody_isPrefix (body : List Char) : trimBody body <+: body := by
  fun_induction trimBody body with
  | case1 => exact List.prefix_rfl
  | case2 body _ _ ih => exact ih.trans (lastPart_isPrefix body)
  | case3 => exact List.prefix_rfl

theorem countedParts_trimBody (body : List Char) :
    countedParts (trimBody body) = countedParts body := by
  fun_induction trimBody body with
  | case1 => rfl
  | case2 body _ hvoid ih =>
    rw [ih]
    rcases lastMark_cases '/' body with h | ⟨front, part, rfl, hpart⟩
    · rw [lastPart_of_not_mem h] at hvoid ⊢
      rw [countedParts_of_isVoid hvoid]
      rfl
    · rw [lastPart_append front hpart] at hvoid ⊢
      rw [countedParts_append, countedParts_of_isVoid hvoid, List.append_nil]
  | case3 => rfl

theorem isVoid_lastPart_trimBody (h : trimBody body ≠ []) :
    isVoid (lastPart (trimBody body)).2 = false := by
  fun_induction trimBody body with
  | case1 => exact absurd rfl h
  | case2 _ _ _ ih => exact ih h
  | case3 _ _ hcounts => exact eq_false_of_ne_true hcounts

theorem trimBody_ne_dot (body : List Char) : trimBody body ≠ ['.'] := by
  intro h
  have hne : trimBody body ≠ [] := by simp [h]
  have hcounts := isVoid_lastPart_trimBody hne
  exact ne_dot_of_counts hcounts (by rw [h]; rfl)

theorem trimBody_eq_self (h : isVoid (lastPart body).2 = false) : trimBody body = body := by
  unfold trimBody
  by_cases hbody : body = []
  · rw [dif_pos hbody, hbody]
  · rw [dif_neg hbody, h]
    rfl

theorem slash_not_mem_lastPart (body : List Char) : '/' ∉ (lastPart body).2 := by
  rcases lastMark_cases '/' body with h | ⟨front, part, rfl, hpart⟩
  · rwa [lastPart_of_not_mem h]
  · rwa [lastPart_append front hpart]

/-- Of the parts that count, the last one is the last part of what is left when void parts are taken
off the end. -/
theorem countedParts_eq_concat (h : trimBody body ≠ []) :
    countedParts body =
      countedParts (lastPart (trimBody body)).1 ++ [(lastPart (trimBody body)).2] := by
  have hcounts := isVoid_lastPart_trimBody h
  rw [← countedParts_trimBody]
  rcases lastMark_cases '/' (trimBody body) with hslash | ⟨front, part, heq, hpart⟩
  · rw [lastPart_of_not_mem hslash] at hcounts ⊢
    rw [countedParts_of_not_mem hslash, hcounts]
    rfl
  · rw [heq, lastPart_append front hpart] at hcounts ⊢
    rw [countedParts_append, countedParts_of_not_mem hpart, hcounts]
    rfl

/-! ## Components -/

/-- The components of a path: the slash of an absolute one or the dot that begins a relative one, if
there is either, and the parts that count. -/
def componentChars (path : List Char) : List (List Char) :=
  (if (splitLead path).1.isEmpty then [] else [(splitLead path).1]) ++
    countedParts (splitLead path).2

def components (path : String) : List String := (componentChars path.toList).map String.ofList

theorem components_ofList (path : List Char) :
    components (.ofList path) = (componentChars path).map String.ofList := by
  rw [components, String.toList_ofList]

theorem ofList_map_injective : Function.Injective (List.map String.ofList) :=
  List.map_injective_iff.mpr fun _ _ => String.ofList_injective

theorem splitLead_parts (path : List Char) : (splitLead path).1 ++ (splitLead path).2 = path := by
  unfold splitLead
  split <;> rfl

theorem splitLead_append (h : front ≠ []) (body : List Char) :
    splitLead (front ++ '/' :: body) =
      ((splitLead front).1, (splitLead front).2 ++ '/' :: body) := by
  match front, h with
  | ['.'], _ => rfl
  | [c], _ =>
    unfold splitLead
    split <;> split <;> simp_all
  | c :: d :: rest, _ =>
    unfold splitLead
    split <;> split <;> simp_all

/-- What begins a path also begins it when its end is taken off, unless a dot alone is left. -/
theorem splitLead_of_isPrefix (hfront : front <+: (splitLead path).2) (hdot : front ≠ ['.']) :
    splitLead ((splitLead path).1 ++ front) = ((splitLead path).1, front) := by
  obtain ⟨rest, hrest⟩ := hfront
  fun_cases splitLead path with
  | case1 => rfl
  | case2 => simp_all [splitLead]
  | case3 =>
    cases front with
    | nil => rfl
    | cons c front => simp_all [splitLead]
  | case4 _ hroot hdotAlone hdotSlash =>
    -- What begins a path without such a beginning has none itself.
    rw [splitLead.eq_4 path hroot hdotAlone hdotSlash] at hrest
    have hbegin : ∀ rest', front ≠ '/' :: rest' ∧ front ≠ '.' :: '/' :: rest' := by
      rintro rest'
      constructor <;> rintro rfl
      · exact hroot _ hrest.symm
      · exact hdotSlash _ hrest.symm
    change splitLead front = ([], front)
    unfold splitLead
    split
    · exact absurd rfl (hbegin _).1
    · exact absurd rfl hdot
    · exact absurd rfl (hbegin _).2
    · rfl

theorem componentChars_append (h : front ≠ []) (body : List Char) :
    componentChars (front ++ '/' :: body) = componentChars front ++ countedParts body := by
  rw [componentChars, splitLead_append h, countedParts_append, ← List.append_assoc]
  rfl

/-! ## Names and parents -/

structure IsName (name : List Char) : Prop where
  slash_notMem : '/' ∉ name
  counts : isVoid name = false
  ne_dots : name ≠ ['.', '.']

theorem IsName.countedParts_eq (h : IsName name) : countedParts name = [name] := by
  rw [countedParts_of_not_mem h.slash_notMem, h.counts]
  rfl

theorem nameChars?_eq_some_iff :
    nameChars? path = some name ↔
      trimBody (splitLead path).2 ≠ [] ∧ (lastPart (trimBody (splitLead path).2)).2 = name ∧
        name ≠ ['.', '.'] := by
  unfold nameChars?
  by_cases hbody : trimBody (splitLead path).2 = []
  · simp [hbody]
  · simp only [List.isEmpty_iff, hbody, if_false, ne_eq, not_false_eq_true, true_and]
    by_cases hdots : (lastPart (trimBody (splitLead path).2)).2 = ['.', '.']
    · rw [if_pos hdots]
      exact iff_of_false (by simp) fun h => h.2 (h.1 ▸ hdots)
    · rw [if_neg hdots, Option.some.injEq]
      exact ⟨fun h => ⟨h, h ▸ hdots⟩, fun h => h.1⟩

theorem isName_of_nameChars? (h : nameChars? path = some name) : IsName name := by
  obtain ⟨hbody, rfl, hdots⟩ := nameChars?_eq_some_iff.mp h
  exact ⟨slash_not_mem_lastPart _, isVoid_lastPart_trimBody hbody, hdots⟩

/-- The last part of a path is its name, if it counts. -/
theorem exists_body_of_append (front : List Char) (h : '/' ∉ part) (hcounts : isVoid part = false) :
    ∃ lead body, splitLead (front ++ '/' :: part) = (lead, body) ∧
      lead ++ body = front ++ '/' :: part ∧ trimBody body = body ∧ (lastPart body).2 = part := by
  cases front with
  | nil =>
    have hlast := lastPart_of_not_mem h
    exact ⟨['/'], part, rfl, rfl, trimBody_eq_self (by rwa [hlast]), by rw [hlast]⟩
  | cons c front =>
    have hlast := lastPart_append (splitLead (c :: front)).2 h
    refine ⟨_, _, splitLead_append (List.cons_ne_nil c front) part, ?_,
      trimBody_eq_self (by rwa [hlast]), by rw [hlast]⟩
    rw [← List.append_assoc, splitLead_parts]

theorem nameChars?_append (front : List Char) (h : '/' ∉ part) (hcounts : isVoid part = false) :
    nameChars? (front ++ '/' :: part) = if part = ['.', '.'] then none else some part := by
  obtain ⟨lead, body, hsplit, _, htrim, hlast⟩ := exists_body_of_append front h hcounts
  have hbody : body ≠ [] := by
    rintro rfl
    exact ne_nil_of_counts hcounts hlast.symm
  simp only [nameChars?, hsplit, htrim, hlast, List.isEmpty_iff, hbody, if_false]

theorem IsName.nameChars?_append (h : IsName name) (front : List Char) :
    nameChars? (front ++ '/' :: name) = some name := by
  rw [Files.nameChars?_append front h.slash_notMem h.counts, if_neg h.ne_dots]

/-- A path that ends with a name has a parent, and is that parent with the name behind. -/
theorem exists_parent_of_name (h : nameChars? path = some name) :
    ∃ parent, parentChars? path = some parent ∧
      componentChars path = componentChars parent ++ [name] := by
  obtain ⟨hbody, rfl, _⟩ := nameChars?_eq_some_iff.mp h
  refine ⟨(splitLead path).1 ++ trimBody (lastPart (trimBody (splitLead path).2)).1, ?_, ?_⟩
  · simp [parentChars?, hbody]
  · have hfront := (trimBody_isPrefix (lastPart (trimBody (splitLead path).2)).1).trans
      ((lastPart_isPrefix _).trans (trimBody_isPrefix (splitLead path).2))
    rw [componentChars, componentChars, splitLead_of_isPrefix hfront (trimBody_ne_dot _),
      countedParts_trimBody, countedParts_eq_concat hbody, List.append_assoc]

/-! ## Names joined to a path -/

/-- Whether or not a path ends with a slash, one slash stands between it and a name. -/
theorem exists_front_of_join {base : List Char} (hbase : base ≠ []) :
    ∃ front, (∀ part, '/' ∉ part → joinChars base part = front ++ '/' :: part) ∧
      ∀ body, componentChars (front ++ '/' :: body) = componentChars base ++ countedParts body := by
  have hhead {part : List Char} (h : '/' ∉ part) : part.head? ≠ some '/' :=
    fun heq => h (List.mem_of_mem_head? heq)
  by_cases hlast : base.getLast? = some '/'
  · obtain ⟨front, rfl⟩ := List.getLast?_eq_some_iff.mp hlast
    refine ⟨front, fun part h => ?_, fun body => ?_⟩
    · simp [joinChars, hhead h]
    · by_cases hfront : front = []
      · subst hfront
        rfl
      · rw [componentChars_append hfront, componentChars_append hfront]
        simp [countedParts, isVoid]
  · refine ⟨base, fun part h => ?_, componentChars_append hbase⟩
    simp [joinChars, hhead h, hbase, hlast]

end CaseRouting.Files
