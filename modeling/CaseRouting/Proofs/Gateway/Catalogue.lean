import CaseRouting.Proofs.Gateway.Run
import CaseRouting.Proofs.Table.Order
import Mathlib.Data.Finmap
import Mathlib.Data.Finset.Sort

/-!
# Catalogues

A catalogue is a finite map from ids to test cases, and the plainest store there is: what another
store answers can be compared with it. A list that holds a catalogue's test cases in whatever order
is searched, lengthened and changed as the catalogue is.
-/

namespace CaseRouting

open Text (bytesOf)

abbrev Catalogue := Finmap fun _ : String => TestCase

namespace Catalogue

/-- One id comes before another in the order of bytes, or is the same. -/
def IdLe (a b : String) : Prop := Table.bytesLe (bytesOf a) (bytesOf b) = true

theorem idLe_iff {a b : String} : IdLe a b ↔ a ≤ b := Table.bytesLe_bytesOf_iff

instance : DecidableRel IdLe := fun a b =>
  inferInstanceAs (Decidable (Table.bytesLe (bytesOf a) (bytesOf b) = true))

instance : IsTrans String IdLe where
  trans _ _ _ hab hbc := idLe_iff.mpr ((idLe_iff.mp hab).trans (idLe_iff.mp hbc))

instance : Std.Antisymm IdLe where
  antisymm _ _ hab hba := le_antisymm (idLe_iff.mp hab) (idLe_iff.mp hba)

instance : Std.Total IdLe where
  total a b := (le_total a b).imp idLe_iff.mpr idLe_iff.mpr

def find (id : String) (m : Catalogue) : Except Fault TestCase :=
  match m.lookup id with
  | some c => .ok c
  | none => .error (.notFound id)

def inOrder (m : Catalogue) : List TestCase := (m.keys.sort IdLe).filterMap fun id => m.lookup id

/-- The gateway to a catalogue: a command puts a test case back changed, if it is not refused. -/
def gateway (now : Instant) : Gateway Catalogue where
  command command id := do
    let m ← Action.get
    let c ← Action.ofExcept (find id m)
    let changed ← Action.ofExcept (command.run now c)
    Action.set (m.insert id changed)
    pure changed
  get id := do
    let m ← Action.get
    Action.ofExcept (find id m)
  list f := do
    let m ← Action.get
    pure (f.apply (inOrder m))

def add (c : TestCase) : Action Catalogue Unit := do
  let m ← Action.get
  if c.id ∈ m then Action.fail (.conflict c.id "UNIQUE constraint failed: test_cases.id")
  else Action.set (Finmap.insert c.id c m)

def store (now : Instant) : Store Catalogue where
  toGateway := gateway now
  insert := add

section Steps

variable {c d : TestCase} {m : Catalogue} {id : String} {now : Instant} {command : Command}

theorem find_eq_ok_iff : find id m = .ok c ↔ m.lookup id = some c := by
  unfold find
  cases m.lookup id <;> simp

theorem add_of_mem (h : c.id ∈ m) :
    add c m = ⟨.error (.conflict c.id "UNIQUE constraint failed: test_cases.id"), m, []⟩ := by
  simp [add, h]

theorem add_of_not_mem (h : c.id ∉ m) : add c m = ⟨.ok (), m.insert c.id c, []⟩ := by
  simp [add, h]

theorem command_of_ok (h : find id m >>= command.run now = .ok d) :
    (gateway now).command command id m = ⟨.ok d, m.insert id d, []⟩ := by
  unfold gateway
  dsimp only
  rw [Action.get_bind, Action.ofExcept_bind_ofExcept_bind, h, Action.ofExcept_ok_bind]
  rfl

theorem command_of_error {e : Fault} (h : find id m >>= command.run now = .error e) :
    (gateway now).command command id m = ⟨.error e, m, []⟩ := by
  unfold gateway
  dsimp only
  rw [Action.get_bind, Action.ofExcept_bind_ofExcept_bind, h, Action.ofExcept_error_bind]

end Steps

/-- A list holds exactly the test cases of a catalogue, in some order. -/
structure Lists (m : Catalogue) (cs : List TestCase) : Prop where
  nodup : (cs.map TestCase.id).Nodup
  lookup_eq_some_iff : ∀ {id c}, m.lookup id = some c ↔ c ∈ cs ∧ c.id = id

theorem lists_empty : Lists ∅ [] where
  nodup := List.nodup_nil
  lookup_eq_some_iff := by simp

namespace Lists

variable {m : Catalogue} {cs ds : List TestCase} {c d : TestCase} {id : String}

theorem find?_eq_lookup (h : Lists m cs) (id : String) : cs.find? (·.id == id) = m.lookup id := by
  cases hfind : cs.find? (·.id == id) with
  | none =>
    symm
    rw [Option.eq_none_iff_forall_ne_some]
    intro c hc
    obtain ⟨hmem, hid⟩ := h.lookup_eq_some_iff.mp hc
    exact absurd (List.find?_eq_none.mp hfind c hmem) (by simp [hid])
  | some c =>
    have hid : c.id = id := by simpa using List.find?_some hfind
    exact (h.lookup_eq_some_iff.mpr ⟨List.mem_of_find?_eq_some hfind, hid⟩).symm

theorem mem_iff (h : Lists m cs) : id ∈ m ↔ ∃ c ∈ cs, c.id = id := by
  rw [Finmap.mem_iff]
  exact exists_congr fun c => h.lookup_eq_some_iff

/-- A command that succeeds has changed a test case with its id, which the changed one keeps. -/
theorem exists_changed {now : Instant} {command : Command} (h : Lists m cs)
    (hchange : find id m >>= command.run now = .ok d) :
    ∃ c ∈ cs, command.run now c = .ok d ∧ d.id = id ∧ id ∈ m := by
  obtain ⟨c, hc, hrun⟩ := bind_eq_ok_iff.mp hchange
  obtain ⟨hmem, hid⟩ := h.lookup_eq_some_iff.mp (find_eq_ok_iff.mp hc)
  exact ⟨c, hmem, hrun, (Command.id_of_run hrun).trans hid, h.mem_iff.mpr ⟨c, hmem, hid⟩⟩

theorem perm (h : Lists m cs) (hperm : cs.Perm ds) : Lists m ds where
  nodup := (hperm.map TestCase.id).nodup_iff.mp h.nodup
  lookup_eq_some_iff := by
    intro id c
    rw [h.lookup_eq_some_iff, hperm.mem_iff]

theorem append (h : Lists m cs) (hnew : c.id ∉ m) : Lists (m.insert c.id c) (cs ++ [c]) where
  nodup := by
    rw [List.map_append, List.map_singleton, List.nodup_append]
    refine ⟨h.nodup, List.nodup_singleton _, ?_⟩
    intro a ha b hb hab
    obtain ⟨e, he, rfl⟩ := List.mem_map.mp ha
    rw [List.mem_singleton.mp hb] at hab
    exact hnew (h.mem_iff.mpr ⟨e, he, hab⟩)
  lookup_eq_some_iff := by
    intro id e
    by_cases hid : id = c.id
    · subst hid
      rw [Finmap.lookup_insert]
      have hold (he : e ∈ cs) : e.id ≠ c.id := fun hec => hnew (h.mem_iff.mpr ⟨e, he, hec⟩)
      simp only [List.mem_append, List.mem_singleton, Option.some.injEq]
      constructor
      · rintro rfl
        exact ⟨.inr rfl, rfl⟩
      · rintro ⟨he | rfl, hec⟩
        · exact absurd hec (hold he)
        · rfl
    · rw [Finmap.lookup_insert_of_ne _ hid, h.lookup_eq_some_iff]
      simp only [List.mem_append, List.mem_singleton]
      constructor
      · rintro ⟨he, hec⟩
        exact ⟨.inl he, hec⟩
      · rintro ⟨he | rfl, hec⟩
        · exact ⟨he, hec⟩
        · exact absurd hec.symm hid

end Lists

def replace (d : TestCase) (cs : List TestCase) : List TestCase :=
  cs.map fun e => if e.id = d.id then d else e

theorem map_id_replace (d : TestCase) (cs : List TestCase) :
    (replace d cs).map TestCase.id = cs.map TestCase.id := by
  rw [replace, List.map_map]
  apply List.map_congr_left
  intro e _
  by_cases he : e.id = d.id <;> simp [he]

theorem replace_of_forall_ne {d : TestCase} {cs : List TestCase} (h : ∀ c ∈ cs, c.id ≠ d.id) :
    replace d cs = cs := by
  refine (List.map_congr_left ?_).trans cs.map_id
  intro c hc
  exact if_neg (h c hc)

theorem mem_replace_iff {e d : TestCase} {cs : List TestCase} (h : ∃ c ∈ cs, c.id = d.id) :
    e ∈ replace d cs ↔ e = d ∨ e ∈ cs ∧ e.id ≠ d.id := by
  rw [replace, List.mem_map]
  constructor
  · rintro ⟨c, hc, rfl⟩
    by_cases hid : c.id = d.id
    · exact .inl (if_pos hid)
    · rw [if_neg hid]
      exact .inr ⟨hc, hid⟩
  · rintro (rfl | ⟨he, hid⟩)
    · obtain ⟨c, hc, hid⟩ := h
      exact ⟨c, hc, if_pos hid⟩
    · exact ⟨e, he, if_neg hid⟩

namespace Lists

variable {m : Catalogue} {cs ds : List TestCase} {c d : TestCase} {id : String}

theorem replace (h : Lists m cs) (hold : d.id ∈ m) :
    Lists (m.insert d.id d) (Catalogue.replace d cs) where
  nodup := by
    rw [map_id_replace]
    exact h.nodup
  lookup_eq_some_iff := by
    intro id e
    rw [mem_replace_iff (h.mem_iff.mp hold)]
    by_cases hid : id = d.id
    · subst hid
      rw [Finmap.lookup_insert, Option.some.injEq]
      constructor
      · rintro rfl
        exact ⟨.inl rfl, rfl⟩
      · rintro ⟨rfl | ⟨_, hne⟩, he⟩
        · rfl
        · exact absurd he hne
    · rw [Finmap.lookup_insert_of_ne _ hid, h.lookup_eq_some_iff]
      constructor
      · rintro ⟨he, rfl⟩
        exact ⟨.inr ⟨he, hid⟩, rfl⟩
      · rintro ⟨rfl | ⟨he, _⟩, hec⟩
        · exact absurd hec.symm hid
        · exact ⟨he, hec⟩

theorem map_id_inOrder (h : Lists m cs) : m.inOrder.map TestCase.id = m.keys.sort IdLe := by
  have hlookup (ids : List String) (hids : ∀ id ∈ ids, id ∈ m) :
      (ids.filterMap fun id => m.lookup id).map TestCase.id = ids := by
    induction ids with
    | nil => rfl
    | cons id ids ih =>
      obtain ⟨hid, hids⟩ := List.forall_mem_cons.mp hids
      obtain ⟨c, hc⟩ := Finmap.mem_iff.mp hid
      rw [List.filterMap_cons, hc, List.map_cons, ih hids, (h.lookup_eq_some_iff.mp hc).2]
  exact hlookup _ fun id hid => Finmap.mem_keys.mp (by simpa using hid)

/-- A catalogue's test cases in the order of their ids are such a list. -/
theorem inOrder (h : Lists m cs) : Lists m m.inOrder where
  nodup := by
    rw [h.map_id_inOrder]
    exact Finset.sort_nodup _ _
  lookup_eq_some_iff := by
    intro id c
    simp only [Catalogue.inOrder, List.mem_filterMap, Finset.mem_sort, Finmap.mem_keys]
    constructor
    · intro hc
      exact ⟨⟨id, Finmap.mem_of_lookup_eq_some hc, hc⟩, (h.lookup_eq_some_iff.mp hc).2⟩
    · rintro ⟨⟨id', _, hc⟩, rfl⟩
      rwa [(h.lookup_eq_some_iff.mp hc).2]

theorem pairwise_inOrder (h : Lists m cs) : m.inOrder.Pairwise fun a b => IdLe a.id b.id := by
  rw [← List.pairwise_map (f := TestCase.id) (R := IdLe), h.map_id_inOrder]
  exact Finset.pairwise_sort _ _

/-- The order of the ids leaves only one such list. -/
theorem eq_inOrder (h : Lists m cs) (hcs : cs.Pairwise fun a b => IdLe a.id b.id) :
    cs = m.inOrder := by
  have hnodup : cs.Nodup := h.nodup.of_map
  have hperm : cs.Perm m.inOrder := by
    refine (List.perm_ext_iff_of_nodup hnodup h.inOrder.nodup.of_map).mpr fun c => ?_
    have hc : m.lookup c.id = some c ↔ c ∈ cs ∧ c.id = c.id := h.lookup_eq_some_iff
    have hc' : m.lookup c.id = some c ↔ c ∈ m.inOrder ∧ c.id = c.id :=
      h.inOrder.lookup_eq_some_iff
    simpa using hc.symm.trans hc'
  refine hperm.eq_of_pairwise ?_ hcs h.pairwise_inOrder
  intro a b ha hb hab hba
  have hid : a.id = b.id := antisymm_of IdLe hab hba
  have hlookup := h.lookup_eq_some_iff.mpr ⟨ha, hid⟩
  have hlookup' := h.inOrder.lookup_eq_some_iff.mpr ⟨hb, rfl⟩
  exact Option.some.inj (hlookup.symm.trans hlookup')

theorem inOrder_insert (h : Lists m cs) (hold : d.id ∈ m) :
    Catalogue.inOrder (m.insert d.id d) = Catalogue.replace d m.inOrder := by
  symm
  apply (h.inOrder.replace hold).eq_inOrder
  have hids := h.pairwise_inOrder
  rw [← List.pairwise_map (f := TestCase.id) (R := IdLe)] at hids ⊢
  rwa [map_id_replace]

end Lists

/-- New test cases can be added one by one. -/
theorem Lists.forM_add {m : Catalogue} {cs ds : List TestCase} (h : Lists m ds)
    (hnodup : (cs.map TestCase.id).Nodup) (hnew : ∀ c ∈ cs, c.id ∉ m) :
    (cs.forM add m).result = .ok () ∧ Lists (cs.forM add m).state (ds ++ cs) := by
  induction cs generalizing m ds with
  | nil => exact ⟨rfl, by simpa using h⟩
  | cons c cs ih =>
    obtain ⟨hc, hcs⟩ := List.forall_mem_cons.mp hnew
    obtain ⟨hfresh, hnodup⟩ := List.nodup_cons.mp hnodup
    have hstill : ∀ e ∈ cs, e.id ∉ m.insert c.id c := by
      intro e he
      rw [Finmap.mem_insert, not_or]
      exact ⟨fun hec => hfresh (hec ▸ List.mem_map_of_mem he), hcs e he⟩
    have hadd := add_of_not_mem hc
    have hok : (add c m).result = .ok () := by rw [hadd]
    change ((add c >>= fun _ => cs.forM add) m).result = _ ∧
      Lists ((add c >>= fun _ => cs.forM add) m).state _
    rw [Action.result_bind_of_ok hok, Action.state_bind_of_ok hok, hadd, List.append_cons]
    exact ih (h.append hc) hnodup hstill

end Catalogue

end CaseRouting
