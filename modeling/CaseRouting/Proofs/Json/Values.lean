import CaseRouting.Proofs.Json.Reader

/-!
# Values read back from their text

The text of a value is read as the document of that value, with any text left after it, whatever
blanks its layout puts between the parts. The reader is given enough fuel by the length of what it
reads: each step into a value passes over a character of it.
-/

namespace CaseRouting.Json

variable {fuel : ℕ} {rest : List Char}

namespace Value

mutual

/-- The document as which the text of a value is read. -/
def doc : Value → Doc
  | .null => .null
  | .bool b => .bool b
  | .whole n => .ofInt n
  | .real d => .number (some (.real d))
  | .text s => .ofText s
  | .list vs => .array (docs vs) true
  | .object ms => .object (memberDocs ms) true

def docs : List Value → List Doc
  | [] => []
  | v :: vs => v.doc :: docs vs

def memberDocs : List (String × Value) → List (Doc × Doc)
  | [] => []
  | (key, v) :: ms => (.ofText key, v.doc) :: memberDocs ms

end

mutual

/-- All numbers in a value are naturals that 64 bits can hold. -/
def IsPlain : Value → Prop
  | .whole n => 0 ≤ n ∧ n < Nat.pow 2 64
  | .real _ => False
  | .list vs => ArePlain vs
  | .object ms => HavePlain ms
  | _ => True

def ArePlain : List Value → Prop
  | [] => True
  | v :: vs => v.IsPlain ∧ ArePlain vs

def HavePlain : List (String × Value) → Prop
  | [] => True
  | (_, v) :: ms => v.IsPlain ∧ HavePlain ms

end

theorem docs_eq_map (vs : List Value) : docs vs = vs.map doc := by
  induction vs with
  | nil => rfl
  | cons v vs ih => rw [docs, ih, List.map_cons]

theorem memberDocs_eq_map (ms : List (String × Value)) :
    memberDocs ms = ms.map fun m => (.ofText m.1, m.2.doc) := by
  induction ms with
  | nil => rfl
  | cons m ms ih => rw [memberDocs, ih, List.map_cons]

theorem doc_object (ms : List (String × Value)) :
    (object ms).doc = .ofMembers (ms.map fun m => (m.1, m.2.doc)) := by
  rw [doc, memberDocs_eq_map, Doc.ofMembers, List.map_map]
  rfl

theorem arePlain_iff {vs : List Value} : ArePlain vs ↔ ∀ v ∈ vs, v.IsPlain := by
  induction vs with
  | nil => simp [ArePlain]
  | cons v vs ih => rw [ArePlain, ih, List.forall_mem_cons]

theorem havePlain_iff {ms : List (String × Value)} : HavePlain ms ↔ ∀ m ∈ ms, m.2.IsPlain := by
  induction ms with
  | nil => simp [HavePlain]
  | cons m ms ih => rw [HavePlain, ih, List.forall_mem_cons]

variable {l : Layout} {depth : ℕ}

theorem itemChars_cons (l : Layout) (depth : ℕ) (v : Value) (vs : List Value) :
    itemChars l depth (v :: vs) = l.lineBreak depth ++
      (v.chars l depth ++ if vs = [] then [] else ',' :: itemChars l depth vs) := by
  cases vs with
  | nil =>
    rw [if_pos rfl, List.append_nil]
    rfl
  | cons w vs =>
    rw [if_neg (List.cons_ne_nil w vs), ← List.append_assoc]
    rfl

theorem memberChars_cons (l : Layout) (depth : ℕ) (key : String) (v : Value)
    (ms : List (String × Value)) :
    memberChars l depth ((key, v) :: ms) = l.lineBreak depth ++ (textLiteral key ++ ':' ::
      (l.afterColon ++ (v.chars l depth ++
        if ms = [] then [] else ',' :: memberChars l depth ms))) := by
  cases ms with
  | nil =>
    rw [if_pos rfl, List.append_nil, memberChars]
    simp only [List.append_assoc, List.cons_append]
  | cons m ms =>
    rw [if_neg (List.cons_ne_nil m ms), memberChars]
    · simp only [List.append_assoc, List.cons_append]
    · exact List.cons_ne_nil m ms

theorem toList_whole {n : ℤ} (h : 0 ≤ n) : (toString n).toList = Nat.toDigits 10 n.toNat := by
  obtain ⟨m, rfl⟩ := Int.eq_ofNat_of_zero_le h
  exact String.toList_ofList

/-- A value begins with something that is neither blank nor the end of a list. -/
theorem exists_chars_eq_cons (l : Layout) (depth : ℕ) {v : Value} (hv : v.IsPlain) :
    ∃ c cs, v.chars l depth = c :: cs ∧ isSpace c = false ∧ c ≠ ']' := by
  cases v with
  | null => exact ⟨_, _, rfl, by decide, by decide⟩
  | bool b => cases b <;> exact ⟨_, _, rfl, by decide, by decide⟩
  | whole n =>
    rw [IsPlain] at hv
    obtain ⟨c, digits, hdigits⟩ : ∃ c digits, Nat.toDigits 10 n.toNat = c :: digits :=
      List.exists_cons_of_ne_nil Nat.toDigits_ne_nil
    have hc : c.isDigit = true := isDigit_of_mem_toDigits (hdigits ▸ List.mem_cons_self)
    refine ⟨c, digits, ?_, isSpace_of_isDigit hc, ?_⟩
    · rw [chars, toList_whole hv.1, hdigits]
    · rintro rfl
      exact absurd hc (by decide)
  | real d => exact absurd hv (by simp [IsPlain])
  | text s => exact ⟨_, _, rfl, by decide, by decide⟩
  | list vs => cases vs <;> exact ⟨_, _, rfl, by decide, by decide⟩
  | object ms => cases ms <;> exact ⟨_, _, rfl, by decide, by decide⟩

end Value

/-- The parts of a value are set apart by nothing but blanks. -/
structure Layout.IsBlank (l : Layout) : Prop where
  lineBreak : ∀ depth, ∀ c ∈ l.lineBreak depth, isSpace c = true
  afterColon : ∀ c ∈ l.afterColon, isSpace c = true

theorem Layout.isBlank_compact : compact.IsBlank := ⟨by simp [compact], by simp [compact]⟩

theorem Layout.isBlank_indented : indented.IsBlank where
  lineBreak depth c hc := by
    rcases List.mem_cons.mp hc with rfl | hc
    · decide
    · rw [List.eq_of_mem_replicate hc]
      decide
  afterColon c hc := by
    rw [List.mem_singleton.mp hc]
    decide

namespace Value

variable {l : Layout} {depth : ℕ} (hl : l.IsBlank)

include hl

theorem readValue_list_cons {v : Value} {vs : List Value} (hv : v.IsPlain)
    (hitems : readItems fuel (itemChars l (depth + 1) (v :: vs) ++
      (l.lineBreak depth ++ ']' :: rest)) = (docs (v :: vs), true, rest)) :
    readValue (fuel + 1) ((list (v :: vs)).chars l depth ++ rest) =
      ((list (v :: vs)).doc, rest) := by
  obtain ⟨c, cs, hcs, hspace, hc⟩ := exists_chars_eq_cons l (depth + 1) hv
  rw [chars]
  · rw [itemChars_cons, hcs, List.append_assoc,
      readItems_append (hl.lineBreak (depth + 1))] at hitems
    rw [itemChars_cons, hcs]
    simp only [List.cons_append, List.append_assoc, List.nil_append] at hitems ⊢
    rw [readValue_bracket (hl.lineBreak (depth + 1)) hspace hc, hitems, doc]
  · exact List.cons_ne_nil v vs

theorem readValue_object_cons {key : String} {v : Value} {ms : List (String × Value)}
    (hmembers : readMembers fuel (memberChars l (depth + 1) ((key, v) :: ms) ++
      (l.lineBreak depth ++ '\x7d' :: rest)) = (memberDocs ((key, v) :: ms), true, rest)) :
    readValue (fuel + 1) ((object ((key, v) :: ms)).chars l depth ++ rest) =
      ((object ((key, v) :: ms)).doc, rest) := by
  rw [chars]
  · rw [memberChars_cons, List.append_assoc, readMembers_append (hl.lineBreak (depth + 1)),
      textLiteral] at hmembers
    rw [memberChars_cons, textLiteral]
    simp only [List.cons_append, List.append_assoc, List.nil_append] at hmembers ⊢
    rw [readValue_brace (hl.lineBreak (depth + 1)), hmembers, doc]
  · exact List.cons_ne_nil (key, v) ms

mutual

theorem readValue_chars : ∀ (v : Value) (depth : ℕ), v.IsPlain → ∀ (fuel : ℕ) (rest : List Char),
    (v.chars l depth).length < fuel → EndsNumber rest →
      readValue fuel (v.chars l depth ++ rest) = (v.doc, rest)
  | .null, _, _, fuel + 1, rest, _, _ => by
    rw [chars, readValue]
    rfl
  | .bool b, _, _, fuel + 1, rest, _, _ => by
    cases b <;> (rw [chars, readValue]; rfl)
  | .whole n, _, hv, fuel + 1, rest, _, hrest => by
    rw [IsPlain] at hv
    rw [chars, toList_whole hv.1, readValue_toDigits (by omega) hrest, doc,
      Int.toNat_of_nonneg hv.1]
  | .real d, _, hv, _, _, _, _ => absurd hv (by simp [IsPlain])
  | .text s, _, _, fuel + 1, rest, _, _ => readValue_textLiteral s fuel rest
  | .list [], _, _, fuel + 1, rest, _, _ => by
    rw [chars, readValue]
    rfl
  | .list (v :: vs), depth, hv, fuel + 1, rest, hfuel, _ => by
    rw [IsPlain] at hv
    refine readValue_list_cons hl hv.1 (readItems_itemChars v vs (depth + 1) hv fuel rest
      (hl.lineBreak depth) ?_)
    rw [chars] at hfuel
    · simp only [List.length_cons, List.length_append] at hfuel
      omega
    · exact List.cons_ne_nil v vs
  | .object [], _, _, fuel + 1, rest, _, _ => by
    rw [chars, readValue]
    rfl
  | .object ((key, v) :: ms), depth, hv, fuel + 1, rest, hfuel, _ => by
    rw [IsPlain] at hv
    refine readValue_object_cons hl (readMembers_memberChars key v ms (depth + 1) hv fuel rest
      (hl.lineBreak depth) ?_)
    rw [chars] at hfuel
    · simp only [List.length_cons, List.length_append] at hfuel
      omega
    · exact List.cons_ne_nil (key, v) ms

theorem readItems_itemChars : ∀ (v : Value) (vs : List Value) (depth : ℕ), ArePlain (v :: vs) →
    ∀ (fuel : ℕ) (rest : List Char) {blanks : List Char}, (∀ c ∈ blanks, isSpace c = true) →
      (itemChars l depth (v :: vs)).length + 1 < fuel →
      readItems fuel (itemChars l depth (v :: vs) ++ (blanks ++ ']' :: rest)) =
        (docs (v :: vs), true, rest)
  | v, [], depth, hv, fuel + 1, rest, blanks, hblank, hfuel => by
    rw [itemChars, List.append_assoc, readItems_append (hl.lineBreak depth)]
    have hread := readValue_chars v depth hv.1 fuel (blanks ++ ']' :: rest) (by
      rw [itemChars, List.length_append] at hfuel
      omega) (endsNumber_append hblank (endsNumber_cons (by decide) (by decide)))
    rw [readItems_bracket hblank hread]
    rfl
  | v, w :: vs, depth, hv, fuel + 1, rest, blanks, hblank, hfuel => by
    rw [itemChars_cons, if_neg (List.cons_ne_nil w vs)] at hfuel ⊢
    simp only [List.length_append, List.length_cons] at hfuel
    rw [List.append_assoc, readItems_append (hl.lineBreak depth), List.append_assoc, List.cons_append]
    have hread := readValue_chars v depth hv.1 fuel
      (',' :: (itemChars l depth (w :: vs) ++ (blanks ++ ']' :: rest))) (by omega)
      (endsNumber_cons (by decide) (by decide))
    rw [readItems_comma hread, readItems_itemChars w vs depth hv.2 _ _ hblank (by omega)]
    rfl

theorem readMembers_memberChars : ∀ (key : String) (v : Value) (ms : List (String × Value))
    (depth : ℕ), HavePlain ((key, v) :: ms) → ∀ (fuel : ℕ) (rest : List Char) {blanks : List Char},
      (∀ c ∈ blanks, isSpace c = true) →
      (memberChars l depth ((key, v) :: ms)).length + 1 < fuel →
        readMembers fuel (memberChars l depth ((key, v) :: ms) ++ (blanks ++ '\x7d' :: rest)) =
          (memberDocs ((key, v) :: ms), true, rest)
  | key, v, [], depth, hv, fuel + 2, rest, blanks, hblank, hfuel => by
    rw [memberChars_cons, if_pos rfl, List.append_nil] at hfuel ⊢
    simp only [List.length_append, List.length_cons] at hfuel
    rw [List.append_assoc, readMembers_append (hl.lineBreak depth), List.append_assoc,
      List.cons_append, List.append_assoc]
    have hread := readValue_chars v depth hv.1 (fuel + 1) (blanks ++ '\x7d' :: rest) (by omega)
      (endsNumber_append hblank (endsNumber_cons (by decide) (by decide)))
    rw [← readValue_append hl.afterColon] at hread
    rw [readMembers_brace hblank (readValue_textLiteral key fuel _) hread]
    rfl
  | key, v, (key', w) :: ms, depth, hv, fuel + 2, rest, blanks, hblank, hfuel => by
    rw [memberChars_cons, if_neg (List.cons_ne_nil _ ms)] at hfuel ⊢
    simp only [List.length_append, List.length_cons] at hfuel
    rw [List.append_assoc, readMembers_append (hl.lineBreak depth), List.append_assoc,
      List.cons_append, List.append_assoc, List.append_assoc, List.cons_append]
    have hread := readValue_chars v depth hv.1 (fuel + 1)
      (',' :: (memberChars l depth ((key', w) :: ms) ++ (blanks ++ '\x7d' :: rest))) (by omega)
      (endsNumber_cons (by decide) (by decide))
    rw [← readValue_append hl.afterColon] at hread
    rw [readMembers_comma (readValue_textLiteral key fuel _) hread,
      readMembers_memberChars key' w ms depth hv.2 _ _ hblank (by omega)]
    rfl

end

end Value

theorem read_chars {l : Layout} (hl : l.IsBlank) {v : Value} (hv : v.IsPlain) :
    read (.ofList (v.chars l 0)) = (v.doc, []) := by
  have hread := v.readValue_chars hl 0 hv (2 * (v.chars l 0).length + 2) [] (by omega)
    endsNumber_nil
  rw [List.append_nil] at hread
  rw [read, readChars, String.toList_ofList, hread]

theorem read_compact {v : Value} (hv : v.IsPlain) : read v.compact = (v.doc, []) :=
  read_chars Layout.isBlank_compact hv

theorem read_indented {v : Value} (hv : v.IsPlain) : read v.indented = (v.doc, []) :=
  read_chars Layout.isBlank_indented hv

section

variable {α : Type} {decoder : Decoder α} {a : α}

theorem decodeRead_eq_ok_iff {r : Doc × List Char} : decodeRead decoder r = .ok a ↔
    decoder .stream r.1 = .ok a ∧ (skipSpaces r.2).isEmpty = true := by
  unfold decodeRead
  by_cases hrest : (skipSpaces r.2).isEmpty = true <;> simp [bind_eq_ok_iff, hrest]

theorem decodeText_eq_ok_iff {s : String} : decodeText decoder s = .ok a ↔
    decoder .stream (read s).1 = .ok a ∧ (skipSpaces (read s).2).isEmpty = true :=
  decodeRead_eq_ok_iff

end

/-! ## Lists of texts -/

theorem isPlain_texts (ls : List String) : (Value.texts ls).IsPlain := by
  rw [Value.texts, Value.IsPlain, Value.arePlain_iff, List.forall_mem_map]
  exact fun _ _ => trivial

theorem doc_texts (ls : List String) : (Value.texts ls).doc = .array (ls.map .ofText) true := by
  rw [Value.texts, Value.doc, Value.docs_eq_map, List.map_map]
  rfl

theorem list_text_ofTexts (form : Form) (ls : List String) :
    Decode.list Decode.text form (.array (ls.map .ofText) true) = .ok ls := by
  have hitems : Decode.items Decode.text form (ls.map .ofText) = .ok ls := by
    induction ls with
    | nil => rfl
    | cons l ls ih =>
      rw [List.map_cons, Decode.items, ih]
      rfl
  rw [Decode.list, hitems]
  rfl

theorem list_text_doc_texts (form : Form) (ls : List String) :
    Decode.list Decode.text form (Value.texts ls).doc = .ok ls := by
  rw [doc_texts, list_text_ofTexts]

/-- A list of texts comes back from its compact text as it is. -/
theorem decodeText_compact_texts (ls : List String) :
    decodeText (Decode.list Decode.text) (Value.texts ls).compact = .ok ls := by
  rw [decodeText_eq_ok_iff, read_compact (isPlain_texts ls)]
  exact ⟨list_text_doc_texts .stream ls, rfl⟩

end CaseRouting.Json
