import CaseRouting.Proofs.Data.Record
import CaseRouting.Proofs.Json.Values

/-!
# Records read back from objects

A value is read as something if its numbers can be held and its document decodes to it. Lists,
absent values and records are read as what their parts are read as: the members of an object stand
for a record if each is read as the part that its field makes up.
-/

namespace CaseRouting

open Decode

namespace Json

variable {α β : Type} {decoder : Decoder α} {v : Value} {a : α}

/-- The text of a value is read as this. -/
structure ReadsAs (decoder : Decoder α) (v : Value) (a : α) : Prop where
  isPlain : v.IsPlain
  decodes : decoder .stream v.doc = .ok a

namespace ReadsAs

theorem decodeText_compact (h : ReadsAs decoder v a) : decodeText decoder v.compact = .ok a := by
  rw [decodeText_eq_ok_iff, read_compact h.isPlain]
  exact ⟨h.decodes, rfl⟩

theorem decodeText_indented (h : ReadsAs decoder v a) : decodeText decoder v.indented = .ok a := by
  rw [decodeText_eq_ok_iff, read_indented h.isPlain]
  exact ⟨h.decodes, rfl⟩

theorem text (s : String) : ReadsAs Decode.text (.text s) s := ⟨trivial, rfl⟩

theorem bool (b : Bool) : ReadsAs Decode.bool (.bool b) b := ⟨trivial, rfl⟩

theorem natural {limit n : ℕ} (hn : n < limit) (hlimit : limit ≤ Nat.pow 2 64)
    (expected : String) : ReadsAs (Decode.natural limit expected) (.whole n) n where
  isPlain := ⟨Int.natCast_nonneg n, by exact_mod_cast hn.trans_le hlimit⟩
  decodes := by
    have hrange : 0 ≤ (n : ℤ) ∧ (n : ℤ) < limit := ⟨Int.natCast_nonneg n, by exact_mod_cast hn⟩
    exact if_pos hrange

theorem texts (ls : List String) : ReadsAs (Decode.list Decode.text) (.texts ls) ls :=
  ⟨isPlain_texts ls, list_text_doc_texts .stream ls⟩

theorem list {as : List α} {f : α → Value} (h : ∀ a ∈ as, ReadsAs decoder (f a) a) :
    ReadsAs (Decode.list decoder) (.list (as.map f)) as where
  isPlain := by
    rw [Value.IsPlain, Value.arePlain_iff, List.forall_mem_map]
    exact fun a ha => (h a ha).isPlain
  decodes := by
    have hitems : Decode.items decoder .stream (as.map fun a => (f a).doc) = .ok as := by
      induction as with
      | nil => rfl
      | cons a as ih =>
        rw [List.map_cons, Decode.items, (h a List.mem_cons_self).decodes, ok_bind,
          ih fun b hb => h b (List.mem_cons_of_mem a hb)]
        rfl
    rw [Value.doc, Value.docs_eq_map, List.map_map, Decode.list]
    exact (congrArg (· >>= _) hitems).trans rfl

theorem doc_ne_null (h : v ≠ .null) : v.doc ≠ .null := by
  cases v <;> simp [Value.doc, Doc.ofInt, Doc.ofText] at h ⊢

theorem optional {o : Option α} {f : α → Value} (hf : ∀ a, f a ≠ .null)
    (h : ∀ a ∈ o, ReadsAs decoder (f a) a) :
    ReadsAs (Decode.optional decoder) (.option f o) o := by
  cases o with
  | none => exact ⟨trivial, rfl⟩
  | some a =>
    have ha := h a rfl
    refine ⟨ha.isPlain, ?_⟩
    rw [Value.option, Decode.optional, ha.decodes]
    · rfl
    · exact doc_ne_null (hf a)

end ReadsAs

/-! ## Records -/

/-- The members of an object give the parts of a record, one for each field and in their order. -/
inductive Spells : {α : Type} → Fields α → List (String × Value) → α → Prop where
  | of {α : Type} (a : α) : Spells (Fields.of a) [] a
  | field {α β : Type} {fs : Fields (α → β)} {ms : List (String × Value)} {make : α → β}
      {f : Decode.Field α} {v : Value} {a : α} (h : Spells fs ms make) (hv : ReadsAs f.decoder v a) :
      Spells (fs.field f) (ms ++ [(f.name, v)]) (make a)

namespace Spells

section

variable {fs : Fields (α → β)} {ms : List (String × Value)} {make : α → β}

theorem required (h : Spells fs ms make) (name : String) (hv : ReadsAs decoder v a) :
    Spells (fs.field (Decode.required name decoder)) (ms ++ [(name, v)]) (make a) :=
  h.field hv

theorem defaulted (h : Spells fs ms make) (name : String) (value : α) (hv : ReadsAs decoder v a) :
    Spells (fs.field (Decode.defaulted name value decoder)) (ms ++ [(name, v)]) (make a) :=
  h.field hv

theorem nullable {fs : Fields (Option α → β)} {make : Option α → β} (h : Spells fs ms make)
    (name : String) (f : α → Value) (o : Option α) (hf : ∀ a, f a ≠ .null)
    (hv : ∀ a ∈ o, ReadsAs decoder (f a) a) :
    Spells (fs.field (Decode.nullable name decoder)) (ms ++ [(name, .option f o)]) (make o) :=
  h.field (.optional hf hv)

theorem nullableText {fs : Fields (Option String → β)} {make : Option String → β}
    (h : Spells fs ms make) (name : String) (o : Option String) :
    Spells (fs.field (Decode.nullable name Decode.text)) (ms ++ [(name, .option .text o)])
      (make o) :=
  h.nullable name .text o nofun fun s _ => .text s

end

variable {fs : Fields α} {ms : List (String × Value)}

theorem names_eq (h : Spells fs ms a) : fs.checks.map Prod.fst = ms.map Prod.fst := by
  induction h with
  | of => rfl
  | field _ _ ih => simp [Fields.field, ih]

theorem isPlain (h : Spells fs ms a) : ∀ m ∈ ms, m.2.IsPlain := by
  induction h with
  | of => simp
  | field _ hv ih =>
    rw [List.forall_mem_append, List.forall_mem_singleton]
    exact ⟨ih, hv.isPlain⟩

theorem exists_check (h : Spells fs ms a) :
    ∀ m ∈ ms, ∃ check, (m.1, check) ∈ fs.checks ∧ check .stream m.2.doc = .ok () := by
  induction h with
  | of => simp
  | field _ hv ih =>
    rw [List.forall_mem_append, List.forall_mem_singleton]
    refine ⟨fun m hm => ?_, ?_⟩
    · obtain ⟨check, hmem, hcheck⟩ := ih m hm
      exact ⟨check, List.mem_append_left _ hmem, hcheck⟩
    · refine ⟨_, List.mem_append_right _ List.mem_cons_self, ?_⟩
      rw [hv.decodes]
      rfl

theorem build_eq_ok {known : List (String × Doc)} {expected : String} (h : Spells fs ms a)
    (hknown : ∀ m ∈ ms, known.find? (·.1 == m.1) = some (m.1, m.2.doc)) :
    fs.build .stream expected (.named known) = .ok a := by
  induction h with
  | of => rfl
  | field _ hv ih =>
    rw [List.forall_mem_append, List.forall_mem_singleton] at hknown
    refine Fields.build_field_eq_ok_iff.mpr ⟨_, ih hknown.1, _, ?_, rfl⟩
    rw [Field.value_named, hknown.2]
    exact hv.decodes

end Spells

theorem find?_fst_of_mem {l : List (String × β)} (hnodup : (l.map Prod.fst).Nodup)
    {m : String × β} (hm : m ∈ l) : l.find? (·.1 == m.1) = some m := by
  induction l with
  | nil => exact absurd hm List.not_mem_nil
  | cons m' l ih =>
    rw [List.map_cons, List.nodup_cons] at hnodup
    rw [List.find?_cons]
    rcases List.mem_cons.mp hm with rfl | hm
    · rw [beq_self_eq_true]
    · have hne : m'.1 ≠ m.1 := fun heq =>
        hnodup.1 (heq ▸ List.mem_map.mpr ⟨m, hm, rfl⟩)
      rw [beq_eq_false_iff_ne.mpr hne]
      exact ih hnodup.2 hm

/-- A walk keeps all members if each is known and comes once. -/
theorem walk_of_checks {fs : Fields α} {ms : List (String × Value)} {seen : List String}
    (hnodup : (ms.map Prod.fst).Nodup) (hseen : ∀ m ∈ ms, m.1 ∉ seen)
    (hchecks : ∀ m ∈ ms, ∃ check, fs.check? m.1 = some check ∧ check .stream m.2.doc = .ok ()) :
    fs.walk .stream seen true (Value.memberDocs ms) = .ok (ms.map fun m => (m.1, m.2.doc)) := by
  induction ms generalizing seen with
  | nil => rfl
  | cons m ms ih =>
    rw [List.map_cons, List.nodup_cons] at hnodup
    rw [List.forall_mem_cons] at hseen hchecks
    obtain ⟨⟨check, hcheck, hok⟩, hchecks⟩ := hchecks
    refine (Fields.walk_cons_of_known hcheck).mpr ⟨hseen.1, hok, _, ih hnodup.2 ?_ hchecks, rfl⟩
    intro m' hm' hmem
    rcases List.mem_cons.mp hmem with heq | hmem
    · exact hnodup.1 (heq ▸ List.mem_map.mpr ⟨m', hm', rfl⟩)
    · exact hseen.2 m' hm' hmem

/-- An object is read as the record that its members spell, if no two fields have one name. -/
theorem ReadsAs.record {fs : Fields α} {ms : List (String × Value)} (h : Spells fs ms a)
    (hnodup : (fs.checks.map Prod.fst).Nodup) (name : String) :
    ReadsAs (Decode.record name fs) (.object ms) a where
  isPlain := Value.havePlain_iff.mpr h.isPlain
  decodes := by
    have hnames : (ms.map Prod.fst).Nodup := h.names_eq ▸ hnodup
    refine record_object_eq_ok_iff.mpr ⟨_, walk_of_checks hnames (by simp) ?_, h.build_eq_ok ?_⟩
    · intro m hm
      obtain ⟨check, hmem, hcheck⟩ := h.exists_check m hm
      refine ⟨check, ?_, hcheck⟩
      rw [Fields.check?, find?_fst_of_mem hnodup hmem]
      rfl
    · intro m hm
      refine find?_fst_of_mem (m := (m.1, m.2.doc)) ?_ (List.mem_map.mpr ⟨m, hm, rfl⟩)
      rw [List.map_map]
      exact hnames

end Json

end CaseRouting
