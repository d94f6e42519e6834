import CaseRouting.Data.Decode
import CaseRouting.Proofs.Action

/-!
# Members of objects and fields of records

A record reads from an object no more than the members it knows by name. Setting such a member to a
value that its field takes gives an object of which the record can be read again.
-/

namespace CaseRouting

namespace Doc

variable {members : List (Doc × Doc)} {name : String}

def isKey (name : String) : Doc → Bool
  | .text (some key) => key == name
  | _ => false

def member? (name : String) (members : List (Doc × Doc)) : Option Doc :=
  (members.find? (·.1.isKey name)).map (·.2)

/-- The members with a value for this name, in the place of the old one or at the end. -/
def setMember (name : String) (d : Doc) : List (Doc × Doc) → List (Doc × Doc)
  | [] => [(.ofText name, d)]
  | m :: rest => if m.1.isKey name then (.ofText name, d) :: rest else m :: setMember name d rest

def setMembers (given : List (String × Doc)) (members : List (Doc × Doc)) : List (Doc × Doc) :=
  given.foldr (fun m => setMember m.1 m.2) members

theorem isKey_ofText (name key : String) : (ofText key).isKey name = (key == name) := rfl

theorem eq_of_isKey {d : Doc} {key : String} (h : d.isKey name = true) (h' : d.isKey key = true) :
    key = name := by
  unfold isKey at h h'
  split at h
  · simp_all
  · exact absurd h (by decide)

@[simp] theorem member?_cons (name : String) (m : Doc × Doc) (members : List (Doc × Doc)) :
    member? name (m :: members) = if m.1.isKey name then some m.2 else member? name members := by
  unfold member?
  rw [List.find?_cons]
  cases m.1.isKey name <;> rfl

theorem member?_setMember (name key : String) (d : Doc) (members : List (Doc × Doc)) :
    member? key (setMember name d members) =
      if key = name then some d else member? key members := by
  induction members with
  | nil =>
    rw [setMember, member?_cons, isKey_ofText]
    by_cases h : key = name
    · simp [h]
    · simp [h, Ne.symm h]
  | cons m members ih =>
    rw [setMember]
    split
    · next hm =>
      rw [member?_cons, member?_cons, isKey_ofText]
      by_cases h : key = name
      · simp [h]
      · have hkey : m.1.isKey key = false :=
          Bool.eq_false_iff.mpr fun hkey => h (eq_of_isKey hm hkey)
        simp [h, Ne.symm h, hkey]
    · next hm =>
      rw [member?_cons, member?_cons, ih]
      by_cases h : key = name
      · simp [h, hm]
      · simp [h]

theorem setMembers_append (as bs : List (String × Doc)) (members : List (Doc × Doc)) :
    setMembers (as ++ bs) members = setMembers as (setMembers bs members) :=
  List.foldr_append

theorem member?_setMembers_of_notMem {given : List (String × Doc)}
    (h : name ∉ given.map (·.1)) (members : List (Doc × Doc)) :
    member? name (setMembers given members) = member? name members := by
  induction given with
  | nil => rfl
  | cons m given ih =>
    rw [List.map_cons, List.mem_cons, not_or] at h
    have hset : setMembers (m :: given) members = setMember m.1 m.2 (setMembers given members) := rfl
    rw [hset, member?_setMember, if_neg h.1, ih h.2]

end Doc

namespace Decode

open Doc (member? setMember)

variable {α : Type} {form : Form}

def Field.ofMember (f : Field α) (form : Form) : Option Doc → Decoded α
  | some d => f.decoder form d
  | none =>
    match f.absence with
    | .refused => .error (.missingField f.name)
    | .filled a => .ok a
    | .defaulted a => .ok a

theorem Field.value_named (f : Field α) (form : Form) (index : ℕ) (expected : String)
    (known : List (String × Doc)) :
    f.value form index expected (.named known) =
      f.ofMember form ((known.find? (·.1 == f.name)).map (·.2)) := by
  rw [Field.value]
  cases known.find? (·.1 == f.name) <;> rfl

namespace Fields

variable {fs : Fields α} {seen : List String} {closed : Bool} {members : List (Doc × Doc)}
  {known : List (String × Doc)} {name : String}

def check? (fs : Fields α) (name : String) : Option (Form → Doc → Decoded Unit) :=
  (fs.checks.find? (·.1 == name)).map (·.2)

theorem walk_nil_eq_ok_iff : fs.walk form seen closed [] = .ok known ↔ closed = true ∧ known = [] := by
  rw [walk]
  cases closed <;> simp [eq_comm]

theorem exists_key_of_walk {m : Doc × Doc} {rest : List (Doc × Doc)}
    (h : fs.walk form seen closed (m :: rest) = .ok known) : ∃ key, m.1 = .ofText key := by
  obtain ⟨k, d⟩ := m
  unfold walk at h
  split at h
  · next hm => cases hm
  · next hm =>
    cases hm
    exact ⟨_, rfl⟩
  · exact absurd h (by simp)

variable {key : String} {d : Doc} {rest : List (Doc × Doc)}

theorem walk_cons_of_known {check : Form → Doc → Decoded Unit} (hcheck : fs.check? key = some check) :
    fs.walk form seen closed ((.ofText key, d) :: rest) = .ok known ↔
      key ∉ seen ∧ check form d = .ok () ∧
        ∃ later, fs.walk form (key :: seen) closed rest = .ok later ∧ known = (key, d) :: later := by
  obtain ⟨found, hfound, rfl⟩ := Option.map_eq_some_iff.mp hcheck
  rw [Doc.ofText, walk, hfound]
  dsimp only
  by_cases hseen : key ∈ seen
  · simp [hseen]
  · simp [hseen, bind_eq_ok_iff, Unique.exists_iff, @eq_comm _ known]

theorem walk_cons_of_unknown (hcheck : fs.check? key = none) :
    fs.walk form seen closed ((.ofText key, d) :: rest) = .ok known ↔
      d.isWhole = true ∧ fs.walk form seen closed rest = .ok known := by
  rw [Doc.ofText, walk, Option.map_eq_none_iff.mp hcheck]
  cases d.isWhole <;> simp

/-- What a walk keeps is what the names of the fields lead to. -/
theorem find?_of_walk (h : fs.walk form seen closed members = .ok known)
    (hname : (fs.check? name).isSome) :
    (known.find? (·.1 == name)).map (·.2) = member? name members := by
  induction members generalizing seen known with
  | nil =>
    rw [(walk_nil_eq_ok_iff.mp h).2]
    rfl
  | cons m rest ih =>
    obtain ⟨k, d⟩ := m
    obtain ⟨key, rfl⟩ := exists_key_of_walk h
    rw [Doc.member?_cons, Doc.isKey_ofText]
    cases hcheck : fs.check? key with
    | none =>
      have hne : (key == name) = false := by
        rw [beq_eq_false_iff_ne]
        rintro rfl
        simp [hcheck] at hname
      rw [hne]
      exact ih ((walk_cons_of_unknown hcheck).mp h).2
    | some check =>
      obtain ⟨_, _, later, hlater, rfl⟩ := (walk_cons_of_known hcheck).mp h
      rw [List.find?_cons]
      cases key == name with
      | true => rfl
      | false => exact ih hlater

/-- The value of a known member can be replaced by one that passes the check, or such a value be
added. -/
theorem exists_walk_setMember {check : Form → Doc → Decoded Unit}
    (h : fs.walk form seen closed members = .ok known) (hcheck : fs.check? name = some check)
    (hd : check form d = .ok ()) (hname : name ∉ seen) :
    ∃ known', fs.walk form seen closed (setMember name d members) = .ok known' := by
  induction members generalizing seen known with
  | nil =>
    have hnil : fs.walk form (name :: seen) closed [] = .ok [] :=
      walk_nil_eq_ok_iff.mpr ⟨(walk_nil_eq_ok_iff.mp h).1, rfl⟩
    exact ⟨_, (walk_cons_of_known hcheck).mpr ⟨hname, hd, [], hnil, rfl⟩⟩
  | cons m rest ih =>
    obtain ⟨k, old⟩ := m
    obtain ⟨key, rfl⟩ := exists_key_of_walk h
    rw [setMember, Doc.isKey_ofText]
    by_cases hkey : key = name
    · subst hkey
      obtain ⟨_, _, later, hlater, -⟩ := (walk_cons_of_known hcheck).mp h
      rw [if_pos (beq_self_eq_true key)]
      exact ⟨_, (walk_cons_of_known hcheck).mpr ⟨hname, hd, later, hlater, rfl⟩⟩
    · rw [if_neg (by simpa using hkey)]
      cases hother : fs.check? key with
      | none =>
        obtain ⟨hwhole, hrest⟩ := (walk_cons_of_unknown hother).mp h
        obtain ⟨known', hknown'⟩ := ih hrest hname
        exact ⟨known', (walk_cons_of_unknown hother).mpr ⟨hwhole, hknown'⟩⟩
      | some other =>
        obtain ⟨hseen, hold, later, hlater, -⟩ := (walk_cons_of_known hother).mp h
        have hname' : name ∉ key :: seen := by
          rw [List.mem_cons, not_or]
          exact ⟨Ne.symm hkey, hname⟩
        obtain ⟨known', hknown'⟩ := ih hlater hname'
        exact ⟨_, (walk_cons_of_known hother).mpr ⟨hseen, hold, known', hknown', rfl⟩⟩

/-- Every member of an object can be read by a record with these fields. -/
def Walks (fs : Fields α) (members : List (Doc × Doc)) (closed : Bool) : Prop :=
  ∃ known, fs.walk .stream [] closed members = .ok known

theorem Walks.setMember {check : Form → Doc → Decoded Unit} (h : fs.Walks members closed)
    (hcheck : fs.check? name = some check) (hd : check .stream d = .ok ()) :
    fs.Walks (Doc.setMember name d members) closed := by
  obtain ⟨known, hknown⟩ := h
  exact exists_walk_setMember hknown hcheck hd List.not_mem_nil

end Fields

section

variable {members : List (Doc × Doc)} {known : List (String × Doc)} {closed : Bool}
  {name expected : String} {d : Doc} {a : α}

/-- The member of its name, or the want of one, gives a field this value. -/
def Field.Reads (f : Field α) (members : List (Doc × Doc)) (a : α) : Prop :=
  f.ofMember .stream (member? f.name members) = .ok a

theorem Field.reads_setMember_of_ne {f : Field α} (h : f.name ≠ name) :
    f.Reads (setMember name d members) a ↔ f.Reads members a := by
  rw [Field.Reads, Doc.member?_setMember, if_neg h, Field.Reads]

theorem Field.reads_setMember_self {f : Field α} :
    f.Reads (setMember f.name d members) a ↔ f.decoder .stream d = .ok a := by
  rw [Field.Reads, Doc.member?_setMember, if_pos rfl, Field.ofMember]

theorem Field.reads_unique {f : Field α} {a' : α} (h : f.Reads members a) (h' : f.Reads members a') :
    a = a' :=
  Except.ok.inj (h.symm.trans h')

theorem Field.value_named_eq_ok_iff {β : Type} {fs : Fields β} {f : Field α} {index : ℕ}
    (hwalk : fs.walk .stream [] closed members = .ok known) (hname : (fs.check? f.name).isSome) :
    f.value .stream index expected (.named known) = .ok a ↔ f.Reads members a := by
  rw [Field.value_named, Fields.find?_of_walk hwalk hname, Field.Reads]

theorem Fields.build_of_eq_ok_iff {form : Form} {parts : Parts} {b : α} :
    (Fields.of a).build form expected parts = .ok b ↔ b = a := by
  rw [Fields.of, Except.ok.injEq, eq_comm]

theorem Fields.build_field_eq_ok_iff {β : Type} {form : Form} {parts : Parts} {fs : Fields (α → β)}
    {f : Field α} {b : β} :
    (fs.field f).build form expected parts = .ok b ↔
      ∃ make, fs.build form expected parts = .ok make ∧
        ∃ a, f.value form fs.checks.length expected parts = .ok a ∧ b = make a := by
  simp only [field, bind_eq_ok_iff, pure_eq_ok, Except.ok.injEq, @eq_comm _ b]

theorem record_object_eq_ok_iff {fs : Fields α} :
    record name fs .stream (.object members closed) = .ok a ↔
      ∃ known, fs.walk .stream [] closed members = .ok known ∧
        fs.build .stream "" (.named known) = .ok a :=
  bind_eq_ok_iff

end

end Decode

end CaseRouting
