import CaseRouting.Proofs.Toml.Lines

/-!
# What statements leave alone

No table ever has a key twice, and a key keeps the value that it was once given: statements never
change or even look at it. So a text that is read behind one value is read in the same way behind
any other, and the tables that it makes differ in this value alone.
-/

namespace CaseRouting.Toml

variable {d d' : Doc} {key : String} {path : List String} {ms ms' r : Members}
  {f : Option Entry → Option Entry} {p p' q : Progress} {statements : List Statement}

/-! ## Keys come once -/

def Entry.tables : Entry → List Members
  | .value _ => []
  | .table _ _ sub => [sub]
  | .series tables => tables

/-- No key comes twice, in the table and in all tables below it. -/
inductive Distinct : Members → Prop
  | nil : Distinct []
  | cons {key : String} {e : Entry} {rest : Members} (hkey : key ∉ rest.map Prod.fst)
    (he : ∀ sub ∈ e.tables, Distinct sub) (hrest : Distinct rest) : Distinct ((key, e) :: rest)

theorem mem_keys_of_change {k : String} (h : change key f ms = some r)
    (hk : k ∈ r.map Prod.fst) : k = key ∨ k ∈ ms.map Prod.fst := by
  induction ms generalizing r with
  | nil =>
    obtain ⟨e, -, rfl⟩ := Option.map_eq_some_iff.mp h
    exact .inl (by simpa using hk)
  | cons m rest ih =>
    obtain ⟨k', e⟩ := m
    rw [change] at h
    split_ifs at h with heq
    · obtain ⟨e', -, rfl⟩ := Option.map_eq_some_iff.mp h
      exact .inr (by simpa using hk)
    · obtain ⟨rest', hrest, rfl⟩ := Option.map_eq_some_iff.mp h
      rw [List.map_cons, List.mem_cons] at hk ⊢
      rcases hk with rfl | hk
      · exact .inr (.inl rfl)
      · exact (ih hrest hk).imp_right .inr

/-- A change keeps keys apart if it makes an entry with keys apart out of any other. -/
theorem Distinct.change (h : Distinct ms)
    (hnew : ∀ e, f none = some e → ∀ sub ∈ e.tables, Distinct sub)
    (hold : ∀ e e', (∀ sub ∈ e.tables, Distinct sub) → f (some e) = some e' →
      ∀ sub ∈ e'.tables, Distinct sub)
    (hr : change key f ms = some r) : Distinct r := by
  induction h generalizing r with
  | nil =>
    obtain ⟨e, he, rfl⟩ := Option.map_eq_some_iff.mp hr
    exact .cons (by simp) (hnew e he) .nil
  | @cons k e rest hk he hrest _ ih =>
    rw [Toml.change] at hr
    split_ifs at hr with heq
    · obtain ⟨e', he', rfl⟩ := Option.map_eq_some_iff.mp hr
      exact .cons hk (hold e e' he he') hrest
    · obtain ⟨rest', hrest', rfl⟩ := Option.map_eq_some_iff.mp hr
      refine .cons (fun hmem => ?_) he (ih hrest')
      rcases mem_keys_of_change hrest' hmem with rfl | hmem
      · exact heq rfl
      · exact hk hmem

def KeepsDistinct (op : Bool → Members → Option Members) : Prop :=
  ∀ dotted ms r, Distinct ms → op dotted ms = some r → Distinct r

theorem KeepsDistinct.descend {leaf : Bool → Members → Option Members} (h : KeepsDistinct leaf)
    (byDots : Bool) (path : List String) : KeepsDistinct (descend byDots leaf path) := by
  induction path with
  | nil =>
    intro dotted ms r hms hr
    exact h dotted ms r hms hr
  | cons key path ih =>
    intro dotted ms r hms hr
    rw [Toml.descend] at hr
    refine hms.change (fun e he => ?_) (fun e e' htables he => ?_) hr
    · obtain ⟨sub, hsub, rfl⟩ := Option.map_eq_some_iff.mp he
      simpa [Entry.tables] using ih byDots [] sub .nil hsub
    · split at he
      · next heq => exact absurd heq (by simp)
      · next passed dotted' sub heq =>
        obtain rfl := Option.some.inj heq
        split_ifs at he
        obtain ⟨sub', hsub', rfl⟩ := Option.map_eq_some_iff.mp he
        simpa [Entry.tables] using ih dotted' sub sub' (htables sub (by simp [Entry.tables])) hsub'
      · next last others heq =>
        obtain rfl := Option.some.inj heq
        obtain ⟨last', hlast', rfl⟩ := Option.map_eq_some_iff.mp he
        have hlast := ih false last last' (htables last (by simp [Entry.tables])) hlast'
        simp only [Entry.tables, List.mem_cons, forall_eq_or_imp] at htables ⊢
        exact ⟨hlast, htables.2⟩
      · exact absurd he (by simp)

theorem keepsDistinct_assignIn (path : List String) (key : String) (d : Doc) :
    KeepsDistinct (fun dotted ms => assignIn path key d dotted ms) := by
  refine KeepsDistinct.descend (fun dotted ms r hms hr => ?_) true path
  split_ifs at hr
  refine hms.change (fun e he => ?_) (fun e e' _ he => absurd he (by simp)) hr
  obtain rfl := Option.some.inj he
  simp [Entry.tables]

theorem keepsDistinct_openTable (path : List String) (key : String) :
    KeepsDistinct (fun _ ms => openTable path key ms) := by
  refine fun dotted ms r hms hr => KeepsDistinct.descend (fun _ ms r hms hr => ?_) false path false
    ms r hms hr
  refine hms.change (fun e he => ?_) (fun e e' htables he => ?_) hr
  · obtain rfl := Option.some.inj he
    simp [Entry.tables, Distinct.nil]
  · split at he
    · next heq => exact absurd heq (by simp)
    · next sub heq =>
      obtain rfl := Option.some.inj heq
      obtain rfl := Option.some.inj he
      exact htables
    · exact absurd he (by simp)

theorem keepsDistinct_openSeries (path : List String) (key : String) :
    KeepsDistinct (fun _ ms => openSeries path key ms) := by
  refine fun dotted ms r hms hr => KeepsDistinct.descend (fun _ ms r hms hr => ?_) false path false
    ms r hms hr
  refine hms.change (fun e he => ?_) (fun e e' htables he => ?_) hr
  · obtain rfl := Option.some.inj he
    simp [Entry.tables, Distinct.nil]
  · split at he
    · next heq => exact absurd heq (by simp)
    · next tables heq =>
      obtain rfl := Option.some.inj heq
      obtain rfl := Option.some.inj he
      simp only [Entry.tables, List.mem_cons, forall_eq_or_imp] at htables ⊢
      exact ⟨.nil, htables⟩
    · exact absurd he (by simp)

/-- What was read so far, as tables in which no key comes twice. -/
theorem distinct_apply {statement : Statement} (h : Distinct p.root)
    (hq : statement.apply p = some q) : Distinct q.root := by
  cases statement with
  | nothing =>
    obtain rfl := Option.some.inj hq
    exact h
  | header series path key =>
    obtain ⟨root, hroot, rfl⟩ := Option.map_eq_some_iff.mp hq
    cases series with
    | false => exact keepsDistinct_openTable path key false _ _ h hroot
    | true => exact keepsDistinct_openSeries path key false _ _ h hroot
  | setting path key d =>
    obtain ⟨root, hroot, rfl⟩ := Option.map_eq_some_iff.mp hq
    exact (keepsDistinct_assignIn path key d).descend false p.header false _ _ h hroot

theorem distinct_foldlM (h : Distinct p.root) (hq : statements.foldlM Statement.apply p = some q) :
    Distinct q.root := by
  induction statements generalizing p with
  | nil =>
    obtain rfl := Option.some.inj hq
    exact h
  | cons statement statements ih =>
    rw [List.foldlM_cons, Option.bind_eq_bind, Option.bind_eq_some_iff] at hq
    obtain ⟨p', hp', hq⟩ := hq
    exact ih (distinct_apply h hp') hq

theorem distinct_readLines {cs : List Char} (h : Distinct p.root) (hq : readLines p cs = some q) :
    Distinct q.root := by
  obtain ⟨statements, hstatements⟩ := exists_statements hq
  rw [hstatements] at hq
  exact distinct_foldlM h hq

/-! ## Values stay -/

/-- The tables have two values at this path, one each, and are the same otherwise. -/
inductive Differ (d d' : Doc) : List String → Members → Members → Prop
  | here {key : String} {rest : Members} :
    Differ d d' [key] ((key, .value d) :: rest) ((key, .value d') :: rest)
  | within {key : String} {path : List String} {passed dotted : Bool} {sub sub' rest : Members}
    (h : Differ d d' path sub sub') : Differ d d' (key :: path)
      ((key, .table passed dotted sub) :: rest) ((key, .table passed dotted sub') :: rest)
  | behind {key other : String} {path : List String} {e : Entry} {rest rest' : Members}
    (hne : other ≠ key) (h : Differ d d' (key :: path) rest rest') :
    Differ d d' (key :: path) ((other, e) :: rest) ((other, e) :: rest')

/-- A change that leaves values alone, and tables with a difference below them with this difference,
leaves the difference. -/
theorem Differ.change (h : Differ d d' path ms ms') (hvalue : ∀ d, f (some (.value d)) = none)
    (htable : ∀ path sub sub' passed dotted e, Differ d d' path sub sub' →
      f (some (.table passed dotted sub)) = some e →
        ∃ passed' dotted' r r', e = .table passed' dotted' r ∧
          f (some (.table passed dotted sub')) = some (.table passed' dotted' r') ∧
          Differ d d' path r r')
    (hr : change key f ms = some r) :
    ∃ r', Toml.change key f ms' = some r' ∧ Differ d d' path r r' := by
  induction h generalizing r with
  | @here k rest =>
    rw [Toml.change] at hr
    split_ifs at hr with heq
    · rw [hvalue] at hr
      exact absurd hr (by simp)
    · obtain ⟨rest', hrest', rfl⟩ := Option.map_eq_some_iff.mp hr
      refine ⟨_, ?_, .here⟩
      rw [Toml.change, if_neg heq, hrest', Option.map_some]
  | @within k path passed dotted sub sub' rest h ih =>
    rw [Toml.change] at hr
    split_ifs at hr with heq
    · obtain ⟨e, he, rfl⟩ := Option.map_eq_some_iff.mp hr
      obtain ⟨passed', dotted', r, r', rfl, hr', hdiffer⟩ := htable _ _ _ _ _ _ h he
      refine ⟨_, ?_, .within hdiffer⟩
      rw [Toml.change, if_pos heq, hr', Option.map_some]
    · obtain ⟨rest', hrest', rfl⟩ := Option.map_eq_some_iff.mp hr
      refine ⟨_, ?_, .within h⟩
      rw [Toml.change, if_neg heq, hrest', Option.map_some]
  | @behind k other path e rest rest' hne h ih =>
    rw [Toml.change] at hr
    split_ifs at hr with heq
    · obtain ⟨e', he', rfl⟩ := Option.map_eq_some_iff.mp hr
      refine ⟨_, ?_, .behind hne h⟩
      rw [Toml.change, if_pos heq, he', Option.map_some]
    · obtain ⟨r, hrest, rfl⟩ := Option.map_eq_some_iff.mp hr
      obtain ⟨r', hr', hdiffer⟩ := ih hrest
      refine ⟨_, ?_, .behind hne hdiffer⟩
      rw [Toml.change, if_neg heq, hr', Option.map_some]

/-- A difference is left by the change of a table, and does not show in what else it does. -/
def KeepsDifferences (op : Bool → Members → Option Members) : Prop :=
  ∀ d d' path dotted ms ms' r, Differ d d' path ms ms' → op dotted ms = some r →
    ∃ r', op dotted ms' = some r' ∧ Differ d d' path r r'

theorem KeepsDifferences.descend {leaf : Bool → Members → Option Members}
    (h : KeepsDifferences leaf) (byDots : Bool) (path : List String) :
    KeepsDifferences (descend byDots leaf path) := by
  induction path with
  | nil =>
    intro d d' path dotted ms ms' r hms hr
    exact h d d' path dotted ms ms' r hms hr
  | cons key path ih =>
    intro d d' _ dotted ms ms' r hms hr
    rw [Toml.descend] at hr ⊢
    refine hms.change (fun _ => rfl) (fun inner sub sub' passed dotted' e hsub he => ?_) hr
    dsimp only at he ⊢
    split_ifs at he with hpassed
    obtain ⟨r, hr, rfl⟩ := Option.map_eq_some_iff.mp he
    obtain ⟨r', hr', hdiffer⟩ := ih d d' inner dotted' sub sub' r hsub hr
    refine ⟨passed, dotted', r, r', rfl, ?_, hdiffer⟩
    rw [if_neg hpassed, hr', Option.map_some]

theorem keepsDifferences_assignIn (path : List String) (key : String) (d : Doc) :
    KeepsDifferences (fun dotted ms => assignIn path key d dotted ms) := by
  refine KeepsDifferences.descend (fun d d' _ dotted ms ms' r hms hr => ?_) true path
  split_ifs at hr with hdotted
  rw [if_neg hdotted]
  exact hms.change (fun _ => rfl) (fun _ _ _ _ _ _ _ he => absurd he (by simp)) hr

theorem keepsDifferences_openTable (path : List String) (key : String) :
    KeepsDifferences (fun _ ms => openTable path key ms) := by
  refine fun d d' inner _ ms ms' r hms hr => KeepsDifferences.descend
    (fun d d' inner _ ms ms' r hms hr => ?_) false path d d' inner false ms ms' r hms hr
  refine hms.change (fun _ => rfl) (fun _ sub sub' passed dotted e hsub he => ?_) hr
  cases passed <;> cases dotted <;> simp only [Option.some.injEq, reduceCtorEq] at he
  exact ⟨false, false, sub, sub', he.symm, rfl, hsub⟩

theorem keepsDifferences_openSeries (path : List String) (key : String) :
    KeepsDifferences (fun _ ms => openSeries path key ms) := by
  refine fun d d' inner _ ms ms' r hms hr => KeepsDifferences.descend
    (fun d d' inner _ ms ms' r hms hr => ?_) false path d d' inner false ms ms' r hms hr
  exact hms.change (fun _ => rfl) (fun _ _ _ _ _ _ _ he => absurd he (by simp)) hr

/-- Two texts were read so far with the same effect but for a value. -/
structure SameBut (d d' : Doc) (path : List String) (p p' : Progress) : Prop where
  header : p.header = p'.header
  root : Differ d d' path p.root p'.root

theorem SameBut.apply {statement : Statement} (h : SameBut d d' path p p')
    (hq : statement.apply p = some q) :
    ∃ q', statement.apply p' = some q' ∧ SameBut d d' path q q' := by
  cases statement with
  | nothing =>
    obtain rfl := Option.some.inj hq
    exact ⟨p', rfl, h⟩
  | header series table key =>
    obtain ⟨root, hroot, rfl⟩ := Option.map_eq_some_iff.mp hq
    cases series with
    | false =>
      obtain ⟨root', hroot', hdiffer⟩ :=
        keepsDifferences_openTable table key d d' path false _ _ _ h.root hroot
      exact ⟨_, Option.map_eq_some_iff.mpr ⟨root', hroot', rfl⟩, rfl, hdiffer⟩
    | true =>
      obtain ⟨root', hroot', hdiffer⟩ :=
        keepsDifferences_openSeries table key d d' path false _ _ _ h.root hroot
      exact ⟨_, Option.map_eq_some_iff.mpr ⟨root', hroot', rfl⟩, rfl, hdiffer⟩
  | setting inner key v =>
    obtain ⟨root, hroot, rfl⟩ := Option.map_eq_some_iff.mp hq
    obtain ⟨root', hroot', hdiffer⟩ := (keepsDifferences_assignIn inner key v).descend false p.header
      d d' path false _ _ _ h.root hroot
    refine ⟨⟨root', p'.header⟩, Option.map_eq_some_iff.mpr ⟨root', ?_, rfl⟩, h.header, hdiffer⟩
    rw [← h.header]
    exact hroot'

theorem SameBut.foldlM (h : SameBut d d' path p p')
    (hq : statements.foldlM Statement.apply p = some q) :
    ∃ q', statements.foldlM Statement.apply p' = some q' ∧ SameBut d d' path q q' := by
  induction statements generalizing p p' with
  | nil =>
    obtain rfl := Option.some.inj hq
    exact ⟨p', rfl, h⟩
  | cons statement statements ih =>
    rw [List.foldlM_cons, Option.bind_eq_bind, Option.bind_eq_some_iff] at hq
    obtain ⟨q₁, hq₁, hq⟩ := hq
    obtain ⟨q₁', hq₁', hsame⟩ := h.apply hq₁
    obtain ⟨q', hq', hsame⟩ := ih hsame hq
    refine ⟨q', ?_, hsame⟩
    rw [List.foldlM_cons, hq₁', Option.bind_eq_bind, Option.bind_some, hq']

/-- What follows a value is read behind any other value alike. -/
theorem SameBut.readLines {cs : List Char} (h : SameBut d d' path p p')
    (hq : readLines p cs = some q) :
    ∃ q', Toml.readLines p' cs = some q' ∧ SameBut d d' path q q' := by
  obtain ⟨statements, hstatements⟩ := exists_statements hq
  rw [hstatements] at hq ⊢
  exact h.foldlM hq

theorem SameBut.readOn {rest : List Char} (h : SameBut d d' path p p')
    (hq : readOn p rest = some q) :
    ∃ q', Toml.readOn p' rest = some q' ∧ SameBut d d' path q q' := by
  rcases readOn_eq_some_iff.mp hq with ⟨hend, rfl⟩ | ⟨after, hbreak, hq⟩
  · exact ⟨p', readOn_eq_some_iff.mpr (.inl ⟨hend, rfl⟩), h⟩
  · obtain ⟨q', hq', hsame⟩ := h.readLines hq
    exact ⟨q', readOn_eq_some_iff.mpr (.inr ⟨after, hbreak, hq'⟩), hsame⟩

/-! ## A value that is given -/

/-- The table at a path that leads through tables only. -/
def tableAt? : List String → Members → Option Members
  | [], ms => some ms
  | key :: path, ms =>
    match ms.find? (·.1 == key) with
    | some (_, .table _ _ sub) => tableAt? path sub
    | _ => none

theorem exists_differ_of_new
    (h : change key (fun | none => some (.value d) | some _ => none) ms = some r) (d' : Doc) :
    ∃ r', change key (fun | none => some (.value d') | some _ => none) ms = some r' ∧
      Differ d d' [key] r r' := by
  induction ms generalizing r with
  | nil =>
    obtain rfl := Option.some.inj h
    exact ⟨_, rfl, .here⟩
  | cons m rest ih =>
    obtain ⟨k, e⟩ := m
    rw [change] at h
    split_ifs at h with heq
    · exact absurd h (by simp)
    · obtain ⟨r, hr, rfl⟩ := Option.map_eq_some_iff.mp h
      obtain ⟨r', hr', hdiffer⟩ := ih hr
      refine ⟨_, ?_, .behind heq hdiffer⟩
      rw [change, if_neg heq, hr', Option.map_some]

theorem exists_differ_of_table {g : Option Entry → Option Entry} {passed dotted : Bool}
    {k : String} {sub : Members}
    (hfind : ms.find? (·.1 == key) = some (k, .table passed dotted sub))
    (htable : ∀ e, f (some (.table passed dotted sub)) = some e →
      ∃ r r', e = .table passed dotted r ∧
        g (some (.table passed dotted sub)) = some (.table passed dotted r') ∧ Differ d d' path r r')
    (h : change key f ms = some r) :
    ∃ r', change key g ms = some r' ∧ Differ d d' (key :: path) r r' := by
  induction ms generalizing r with
  | nil => exact absurd hfind (by simp)
  | cons m rest ih =>
    obtain ⟨other, e⟩ := m
    rw [change] at h
    rw [List.find?_cons] at hfind
    by_cases heq : other = key
    · rw [beq_iff_eq.mpr heq] at hfind
      obtain ⟨-, rfl⟩ := Prod.mk.inj (Option.some.inj hfind)
      rw [if_pos heq] at h
      obtain ⟨e, he, rfl⟩ := Option.map_eq_some_iff.mp h
      obtain ⟨r, r', rfl, hr', hdiffer⟩ := htable e he
      subst heq
      refine ⟨_, ?_, .within hdiffer⟩
      rw [change, if_pos rfl, hr', Option.map_some]
    · rw [beq_eq_false_iff_ne.mpr heq] at hfind
      rw [if_neg heq] at h
      obtain ⟨r, hr, rfl⟩ := Option.map_eq_some_iff.mp h
      obtain ⟨r', hr', hdiffer⟩ := ih hfind hr
      refine ⟨_, ?_, .behind heq hdiffer⟩
      rw [change, if_neg heq, hr', Option.map_some]

/-- If a key can be given a value, then it can be given any other one. -/
theorem exists_differ_of_assign {header : List String} {root : Members}
    (htable : (tableAt? header root).isSome) (h : assign header [] key d root = some r) (d' : Doc) :
    ∃ r', assign header [] key d' root = some r' ∧ Differ d d' (header ++ [key]) r r' := by
  have hbelow (dotted : Bool) : ∀ r, descend false (assignIn [] key d) header dotted root = some r →
      ∃ r', descend false (assignIn [] key d') header dotted root = some r' ∧
        Differ d d' (header ++ [key]) r r' := by
    clear h
    induction header generalizing root dotted with
    | nil =>
      intro r hr
      rw [descend, assignIn, descend] at hr ⊢
      split_ifs at hr ⊢
      exact exists_differ_of_new hr d'
    | cons k header ih =>
      intro r hr
      unfold tableAt? at htable
      split at htable
      · next k' passed dotted' sub hfind =>
        rw [descend] at hr ⊢
        refine exists_differ_of_table hfind (fun e he => ?_) hr
        dsimp only at he ⊢
        obtain ⟨r, hr, rfl⟩ := Option.map_eq_some_iff.mp he
        obtain ⟨r', hr', hdiffer⟩ := ih htable dotted' r hr
        refine ⟨r, r', rfl, ?_, hdiffer⟩
        exact Option.map_eq_some_iff.mpr ⟨r', hr', rfl⟩
      · exact absurd htable (by simp)
  exact hbelow false r h

end CaseRouting.Toml
