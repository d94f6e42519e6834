import CaseRouting.Proofs.Action
import CaseRouting.Proofs.Address.Percent
import CaseRouting.Settings.Validation

/-!
# Segments added to a path

A text is added to a path as one segment that stands for it, unless it is one or two dots or holds a
tab or a line break. Then nothing is added, a part of the text is lost, or the path gets shorter.
-/

namespace CaseRouting.Address

open Text (bytesOf encodeUtf8)

variable {path segment cs : List Char} {s : String}

/-! ## Paths begin with a slash -/

theorem head?_of_isPrefix {l : List Char} (h : l <+: path) (hl : l ≠ []) : l.head? = path.head? := by
  obtain ⟨rest, rfl⟩ := h
  cases l with
  | nil => exact absurd rfl hl
  | cons c l => rfl

theorem parent_isPrefix (path : List Char) : parent path <+: path := by
  unfold parent cutAtSlash
  dsimp only
  split
  · exact List.prefix_rfl
  · exact (List.take_prefix _ _).trans (List.dropLast_prefix path)

theorem parent_ne_nil (h : path ≠ []) : parent path ≠ [] := by
  unfold parent
  dsimp only
  split
  · exact h
  · next hkept =>
    rw [Bool.not_eq_true, Bool.or_eq_false_iff] at hkept
    simpa using hkept.1

theorem head?_addSegment (h : path.head? = some '/') (segment : List Char) :
    (addSegment path segment).head? = some '/' := by
  have hpath : path ≠ [] := by
    rintro rfl
    exact absurd h (by simp)
  unfold addSegment
  split
  · rw [head?_of_isPrefix (parent_isPrefix path) (parent_ne_nil hpath), h]
  · split
    · exact h
    · rw [List.head?_append, h, Option.some_or]

theorem head?_readPath (h : path.head? = some '/') (segments : List (List Char)) :
    (readPath path segments).head? = some '/' := by
  fun_induction readPath path segments with
  | case1 path => exact h
  | case2 path last => exact head?_addSegment h last
  | case3 path segment rest hrest added ih =>
    apply ih
    have hadded : added.head? = some '/' := head?_addSegment h segment
    split
    · exact hadded
    · rw [List.head?_append, hadded, Option.some_or]

theorem head?_pathOf (cs : List Char) : (pathOf cs).head? = some '/' :=
  head?_readPath rfl _

theorem head?_path_of_readWeb {secure : Bool} {usual : ℕ} {a : WebAddress}
    (h : readWeb secure usual cs = .ok a) : a.path.head? = some '/' := by
  unfold readWeb at h
  simp only [bind_eq_ok_iff] at h
  obtain ⟨authority, _, h⟩ := h
  split at h
  · exact absurd h (by simp)
  · obtain ⟨host, _, port, _, h⟩ := by simpa only [bind_eq_ok_iff] using h
    rw [← Except.ok.inj h]
    exact head?_pathOf _

theorem exists_readWeb_of_parse {a : WebAddress} (h : parse s = .ok (.web a)) :
    ∃ secure usual cs, readWeb secure usual cs = .ok a := by
  have hweb {x : Except AddressError WebAddress} (h : AnyAddress.web <$> x = .ok (.web a)) :
      x = .ok a := by
    obtain ⟨a', hx, ha⟩ := map_eq_ok_iff.mp h
    rw [hx, AnyAddress.web.inj ha]
  have hother {α : Type} {x : Except AddressError α} {scheme : String}
      (h : (fun _ => AnyAddress.other scheme) <$> x = .ok (.web a)) : False := by
    obtain ⟨_, _, ha⟩ := map_eq_ok_iff.mp h
    exact absurd ha (by simp)
  unfold parse at h
  split at h
  · exact absurd h (by simp)
  · dsimp only at h
    split at h
    · exact ⟨_, _, _, hweb h⟩
    · exact ⟨_, _, _, hweb h⟩
    all_goals exact (hother h).elim

theorem head?_path_of_checkBaseUrl {field value : String} {a : WebAddress}
    (h : Settings.checkBaseUrl field value = .ok a) : a.path.head? = some '/' := by
  unfold Settings.checkBaseUrl at h
  split at h
  · exact absurd h (by simp)
  split at h
  · exact absurd h (by simp)
  · exact absurd h (by simp)
  next address hparse =>
  split at h
  · exact absurd h (by simp)
  obtain rfl : address = a := Except.ok.inj h
  obtain ⟨_, _, _, hread⟩ := exists_readWeb_of_parse hparse
  exact head?_path_of_readWeb hread

/-! ## Segments -/

/-- A text that is a segment of a path when it is added to one. -/
def IsSegment (s : String) : Prop := s ≠ "." ∧ s ≠ ".." ∧ ∀ c ∈ s.toList, isDropped c = false

instance (s : String) : Decidable (IsSegment s) :=
  decidable_of_iff (s ≠ "." ∧ s ≠ ".." ∧ s.toList.any isDropped = false) (by simp [IsSegment])

/-- The path in front of the slash of a new segment. The root ends with that slash. -/
def stem (path : List Char) : List Char := if 1 < path.length then path else []

/-- Only dots look like dots when they are encoded, as a percent sign is encoded itself. -/
theorem isTwoDots_encode_iff : isTwoDots (encode reservedInSegment cs) = true ↔ cs = ['.', '.'] := by
  have hbyte : String.utf8EncodeChar '.' = [0x2E] := by decide
  have hdecode (segment : List Char) (h : isTwoDots segment = true) :
      decode segment = encodeUtf8 ['.', '.'] := by
    simp only [isTwoDots, Bool.or_eq_true, beq_iff_eq, List.cons_append, List.nil_append] at h
    rcases h with (((((((rfl | rfl) | rfl) | rfl) | rfl) | rfl) | rfl) | rfl) | rfl <;>
      simp [decode, Text.hexDigit?, Text.digitValue, encodeUtf8, hbyte]
  constructor
  · intro h
    apply Text.encodeUtf8_injective
    rw [← hdecode _ h, decode_encode (by decide)]
  · rintro rfl
    decide

theorem isOneDot_encode_iff : isOneDot (encode reservedInSegment cs) = true ↔ cs = ['.'] := by
  have hbyte : String.utf8EncodeChar '.' = [0x2E] := by decide
  have hdecode (segment : List Char) (h : isOneDot segment = true) :
      decode segment = encodeUtf8 ['.'] := by
    simp only [isOneDot, Bool.or_eq_true, beq_iff_eq] at h
    rcases h with (rfl | rfl) | rfl <;>
      simp [decode, Text.hexDigit?, Text.digitValue, encodeUtf8, hbyte]
  constructor
  · intro h
    apply Text.encodeUtf8_injective
    rw [← hdecode _ h, decode_encode (by decide)]
  · rintro rfl
    decide

theorem eq_root_of_length_le (h : path.head? = some '/') (hlength : ¬1 < path.length) :
    path = ['/'] := by
  obtain ⟨rest, rfl⟩ := List.head?_eq_some_iff.mp h
  cases rest with
  | nil => rfl
  | cons c rest => exact absurd (by simp) hlength

theorem stem_of_lt (h : 1 < path.length) : stem path = path := if_pos h

theorem head?_stem_append (h : path.head? = some '/') (segment : List Char) :
    (stem path ++ '/' :: segment).head? = some '/' := by
  unfold stem
  split
  · rw [List.head?_append, h, Option.some_or]
  · rfl

theorem pushSegment_eq (h : path.head? = some '/') (hone : s ≠ ".") (htwo : s ≠ "..") :
    pushSegment path s = addSegment (stem path ++ ['/'])
      (encode reservedInSegment (s.toList.filter (!isDropped ·))) := by
  have hstem : (if 1 < path.length then path ++ ['/'] else path) = stem path ++ ['/'] := by
    unfold stem
    split
    · rfl
    · next hlength => exact eq_root_of_length_le h hlength
  unfold pushSegment
  simp [hone, htwo, hstem]

theorem pushSegment_of_isSegment (h : path.head? = some '/') (hs : IsSegment s) :
    pushSegment path s = stem path ++ '/' :: encode reservedInSegment s.toList := by
  obtain ⟨hone, htwo, hkept⟩ := hs
  have hfilter : s.toList.filter (!isDropped ·) = s.toList :=
    List.filter_eq_self.mpr fun c hc => by simp [hkept c hc]
  have hdots : ¬isTwoDots (encode reservedInSegment s.toList) = true := by
    rw [isTwoDots_encode_iff]
    exact fun he => htwo (String.toList_inj.mp he)
  have hdot : ¬isOneDot (encode reservedInSegment s.toList) = true := by
    rw [isOneDot_encode_iff]
    exact fun he => hone (String.toList_inj.mp he)
  rw [pushSegment_eq h hone htwo, hfilter, addSegment, if_neg hdots, if_neg hdot]
  simp

/-- A text that does not become a segment leaves no more than the slash before it. -/
theorem pushSegment_cases (h : path.head? = some '/') (s : String) :
    pushSegment path s <+: stem path ++ ['/'] ∨ s ≠ "." ∧ s ≠ ".." ∧ pushSegment path s =
      stem path ++ '/' :: encode reservedInSegment (s.toList.filter (!isDropped ·)) := by
  by_cases hdots : s = "." ∨ s = ".."
  · have hnothing : pushSegment path s = path := by
      unfold pushSegment
      rcases hdots with rfl | rfl <;> rfl
    left
    rw [hnothing]
    unfold stem
    split
    · exact List.prefix_append path ['/']
    · next hlength =>
      rw [eq_root_of_length_le h hlength]
      exact List.prefix_rfl
  · obtain ⟨hone, htwo⟩ := not_or.mp hdots
    rw [pushSegment_eq h hone htwo, addSegment]
    split
    · exact .inl (parent_isPrefix _)
    split
    · exact .inl List.prefix_rfl
    · exact .inr ⟨hone, htwo, by simp⟩

/-- Only a text that is a segment can be read back from what is added for it. -/
theorem isSegment_of_pushSegment_eq (h : path.head? = some '/')
    (hpush : pushSegment path s = stem path ++ '/' :: segment)
    (hdecode : decode segment = bytesOf s) : IsSegment s := by
  rcases pushSegment_cases h s with hprefix | ⟨hone, htwo, heq⟩
  · have hlength := hprefix.length_le
    rw [hpush, List.append_cons, List.length_append] at hlength
    have hsegment : segment = [] := List.eq_nil_of_length_eq_zero (by omega)
    rw [hsegment, decode] at hdecode
    have hempty : s = "" := String.toList_inj.mp (Text.encodeUtf8_injective hdecode.symm)
    rw [hempty]
    decide
  · rw [hpush, List.append_cancel_left_eq, List.cons.injEq] at heq
    rw [heq.2, decode_encode (by decide)] at hdecode
    have hkept := List.filter_eq_self.mp (Text.encodeUtf8_injective hdecode)
    exact ⟨hone, htwo, fun c hc => by simpa using hkept c hc⟩

end CaseRouting.Address
