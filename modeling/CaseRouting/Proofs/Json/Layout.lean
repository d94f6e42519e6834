import CaseRouting.Proofs.Json.Values

/-!
# Text laid out in lines

A value shown with a line for each item of a list and each member of an object, which begins with two
blanks for each value that it stands in. The indented text of a value shows it in this way.
-/

namespace CaseRouting.Json.Value

def newLine (depth : ℕ) : List Char := '\n' :: List.replicate (2 * depth) ' '

mutual

/-- The text shows a value that stands in so many others. -/
inductive IsIndented : ℕ → Value → List Char → Prop
  | single (depth : ℕ) (v : Value) (hlist : ∀ vs, v ≠ .list vs) (hobject : ∀ ms, v ≠ .object ms) :
    IsIndented depth v (v.chars .compact 0)
  | emptyList (depth : ℕ) : IsIndented depth (.list []) "[]".toList
  | emptyObject (depth : ℕ) : IsIndented depth (.object []) "\x7b\x7d".toList
  | list {depth : ℕ} {v : Value} {vs : List Value} {lines : List (List Char)}
    (h : AreLines (depth + 1) (v :: vs) lines) :
    IsIndented depth (.list (v :: vs)) ('[' :: [','].intercalate lines ++ newLine depth ++ [']'])
  | object {depth : ℕ} {m : String × Value} {ms : List (String × Value)} {lines : List (List Char)}
    (h : HaveLines (depth + 1) (m :: ms) lines) :
    IsIndented depth (.object (m :: ms))
      ('\x7b' :: [','].intercalate lines ++ newLine depth ++ ['\x7d'])

inductive AreLines : ℕ → List Value → List (List Char) → Prop
  | nil (depth : ℕ) : AreLines depth [] []
  | cons {depth : ℕ} {v : Value} {vs : List Value} {text : List Char} {lines : List (List Char)}
    (h : IsIndented depth v text) (hs : AreLines depth vs lines) :
    AreLines depth (v :: vs) ((newLine depth ++ text) :: lines)

inductive HaveLines : ℕ → List (String × Value) → List (List Char) → Prop
  | nil (depth : ℕ) : HaveLines depth [] []
  | cons {depth : ℕ} {key : String} {v : Value} {ms : List (String × Value)} {text : List Char}
    {lines : List (List Char)} (h : IsIndented depth v text) (hs : HaveLines depth ms lines) :
    HaveLines depth ((key, v) :: ms)
      ((newLine depth ++ textLiteral key ++ ": ".toList ++ text) :: lines)

end

variable {depth : ℕ}

theorem exists_areLines {vs : List Value}
    (h : ∀ v ∈ vs, IsIndented depth v (v.chars .indented depth)) :
    ∃ lines, AreLines depth vs lines ∧ itemChars .indented depth vs = [','].intercalate lines := by
  induction vs with
  | nil => exact ⟨[], .nil depth, rfl⟩
  | cons v vs ih =>
    rw [List.forall_mem_cons] at h
    obtain ⟨lines, hlines, heq⟩ := ih h.2
    refine ⟨_, .cons h.1 hlines, ?_⟩
    rw [itemChars_cons, heq]
    cases hlines with
    | nil => simp [newLine, Layout.indented]
    | cons _ _ => simp [newLine, Layout.indented, List.intercalate_cons_cons]

theorem exists_haveLines {ms : List (String × Value)}
    (h : ∀ m ∈ ms, IsIndented depth m.2 (m.2.chars .indented depth)) :
    ∃ lines, HaveLines depth ms lines ∧
      memberChars .indented depth ms = [','].intercalate lines := by
  induction ms with
  | nil => exact ⟨[], .nil depth, rfl⟩
  | cons m ms ih =>
    obtain ⟨key, v⟩ := m
    rw [List.forall_mem_cons] at h
    obtain ⟨lines, hlines, heq⟩ := ih h.2
    refine ⟨_, .cons h.1 hlines, ?_⟩
    rw [memberChars_cons, heq]
    cases hlines with
    | nil => simp [newLine, Layout.indented]
    | cons _ _ => simp [newLine, Layout.indented, List.intercalate_cons_cons]

mutual

theorem isIndented_chars : ∀ (v : Value) (depth : ℕ), IsIndented depth v (v.chars .indented depth)
  | .null, depth => .single depth .null nofun nofun
  | .bool b, depth => .single depth (.bool b) nofun nofun
  | .whole n, depth => .single depth (.whole n) nofun nofun
  | .real d, depth => by cases d <;> exact .single depth (.real _) nofun nofun
  | .text s, depth => .single depth (.text s) nofun nofun
  | .list [], depth => .emptyList depth
  | .list (v :: vs), depth => by
    obtain ⟨lines, hlines, heq⟩ := exists_areLines (areIndented_chars (v :: vs) (depth + 1))
    have h := IsIndented.list hlines
    rw [← heq] at h
    exact h
  | .object [], depth => .emptyObject depth
  | .object (m :: ms), depth => by
    obtain ⟨lines, hlines, heq⟩ := exists_haveLines (haveIndented_chars (m :: ms) (depth + 1))
    have h := IsIndented.object hlines
    rw [← heq] at h
    exact h

theorem areIndented_chars : ∀ (vs : List Value) (depth : ℕ),
    ∀ v ∈ vs, IsIndented depth v (v.chars .indented depth)
  | [], _ => by simp
  | v :: vs, depth => by
    rw [List.forall_mem_cons]
    exact ⟨isIndented_chars v depth, areIndented_chars vs depth⟩

theorem haveIndented_chars : ∀ (ms : List (String × Value)) (depth : ℕ),
    ∀ m ∈ ms, IsIndented depth m.2 (m.2.chars .indented depth)
  | [], _ => by simp
  | (_, v) :: ms, depth => by
    rw [List.forall_mem_cons]
    exact ⟨isIndented_chars v depth, haveIndented_chars ms depth⟩

end

theorem isIndented_indented (v : Value) : IsIndented 0 v v.indented.toList := by
  rw [indented, String.toList_ofList]
  exact isIndented_chars v 0

end CaseRouting.Json.Value
