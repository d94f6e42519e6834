import CaseRouting.Assembly
import CaseRouting.Proofs.Action

/-!
# Any number of bindings

A router is built from bindings, one call after the other. Each place holds what was bound to its
source last, and the source of the first call that binds again is remembered. So building fails with
that source if there is one, and otherwise only the set of bindings counts.
-/

namespace CaseRouting

variable {γ σ : Type} {calls : List (Source × γ)} {b : Bindings γ} {source other : Source} {g : γ}

theorem Slots.ext_get? {s t : Slots γ} (h : ∀ source, s.get? source = t.get? source) : s = t := by
  obtain ⟨sheet, tracker, database⟩ := s
  obtain rfl : sheet = t.sheet := h .sheet
  obtain rfl : tracker = t.tracker := h .tracker
  obtain rfl : database = t.database := h .database
  rfl

namespace Bindings

def sources (calls : List (Source × γ)) : List Source := calls.map Prod.fst

def bindAll (calls : List (Source × γ)) : Bindings γ :=
  calls.foldl (fun b call => b.bind call.1 call.2) empty

/-- Of the calls that bind a source which is bound already, the first is about this source. -/
def FirstAgain (calls : List (Source × γ)) (source : Source) : Prop :=
  ∃ before g after, calls = before ++ (source, g) :: after ∧
    (sources before).Nodup ∧ source ∈ sources before

/-! ## One call more -/

theorem sources_concat (calls : List (Source × γ)) (source : Source) (g : γ) :
    sources (calls ++ [(source, g)]) = sources calls ++ [source] := by
  simp [sources]

theorem nodup_sources_concat_iff :
    (sources (calls ++ [(source, g)])).Nodup ↔
      (sources calls).Nodup ∧ source ∉ sources calls := by
  rw [sources_concat, List.nodup_append_comm, List.singleton_append, List.nodup_cons, and_comm]

theorem firstAgain_concat_iff :
    FirstAgain (calls ++ [(source, g)]) other ↔
      FirstAgain calls other ∨
        other = source ∧ (sources calls).Nodup ∧ source ∈ sources calls := by
  constructor
  · rintro ⟨before, g', after, heq, hnodup, hmem⟩
    rcases List.eq_nil_or_concat after with rfl | ⟨after, last, rfl⟩
    · obtain ⟨rfl, hcall⟩ := List.append_inj' heq rfl
      obtain ⟨rfl, rfl⟩ : source = other ∧ g = g' := by simpa using hcall
      exact .inr ⟨rfl, hnodup, hmem⟩
    · rw [List.concat_eq_append, ← List.cons_append, ← List.append_assoc] at heq
      exact .inl ⟨before, g', after, (List.append_inj' heq rfl).1, hnodup, hmem⟩
  · rintro (⟨before, g', after, rfl, hnodup, hmem⟩ | ⟨rfl, hnodup, hmem⟩)
    · exact ⟨before, g', after ++ [(source, g)], by simp, hnodup, hmem⟩
    · exact ⟨calls, g, [], rfl, hnodup, hmem⟩

structure Records (calls : List (Source × γ)) (b : Bindings γ) : Prop where
  again_eq_none_iff : b.again = none ↔ (sources calls).Nodup
  again_eq_some_iff : ∀ source, b.again = some source ↔ FirstAgain calls source
  isSome_get?_iff : ∀ source, (b.slots.get? source).isSome ↔ source ∈ sources calls
  get?_eq_some_iff : (sources calls).Nodup →
    ∀ source g, b.slots.get? source = some g ↔ (source, g) ∈ calls

namespace Records

theorem empty : Records [] (Bindings.empty : Bindings γ) where
  again_eq_none_iff := by simp [Bindings.empty, sources]
  again_eq_some_iff source := by simp [Bindings.empty, FirstAgain]
  isSome_get?_iff source := by
    cases source <;> simp [Bindings.empty, Slots.empty, Slots.get?, sources]
  get?_eq_some_iff _ source g := by
    cases source <;> simp [Bindings.empty, Slots.empty, Slots.get?]

theorem get?_eq_none (h : Records calls b) (hfree : source ∉ sources calls) :
    b.slots.get? source = none := by
  rw [← Option.not_isSome_iff_eq_none, h.isSome_get?_iff]
  exact hfree

theorem bind (h : Records calls b) (source : Source) (g : γ) :
    Records (calls ++ [(source, g)]) (b.bind source g) where
  again_eq_none_iff := by
    rw [nodup_sources_concat_iff, ← h.again_eq_none_iff, ← h.isSome_get?_iff, Bindings.bind]
    dsimp only
    split <;> simp [*]
  again_eq_some_iff other := by
    rw [firstAgain_concat_iff, ← h.again_eq_none_iff, ← h.isSome_get?_iff, ← h.again_eq_some_iff,
      Bindings.bind]
    cases b.again <;> cases (b.slots.get? source).isSome <;> simp [eq_comm]
  isSome_get?_iff other := by
    change ((b.slots.put source g).get? other).isSome ↔ _
    rw [Slots.get?_put, sources_concat, List.mem_append, List.mem_singleton, ← h.isSome_get?_iff]
    by_cases heq : source = other
    · simp [heq]
    · simp [heq, Ne.symm heq]
  get?_eq_some_iff hnodup other g' := by
    obtain ⟨hnodup, hfree⟩ := nodup_sources_concat_iff.mp hnodup
    change (b.slots.put source g).get? other = some g' ↔ _
    rw [Slots.get?_put, List.mem_append, List.mem_singleton, ← h.get?_eq_some_iff hnodup]
    by_cases heq : source = other
    · subst heq
      simp [h.get?_eq_none hfree, eq_comm]
    · simp [heq, Ne.symm heq]

end Records

theorem records_bindAll (calls : List (Source × γ)) : Records calls (bindAll calls) := by
  induction calls using List.reverseRecOn with
  | nil => exact .empty
  | append_singleton calls call ih =>
    rw [bindAll, List.foldl_concat]
    exact ih.bind call.1 call.2

/-! ## What building makes of the calls -/

/-- The sources of no call, in the order of their slots. -/
def missing (calls : List (Source × γ)) : List Source := Source.all.filter (· ∉ sources calls)

theorem unbound_bindAll (calls : List (Source × γ)) :
    (bindAll calls).slots.unbound = missing calls := by
  refine List.filter_congr fun source _ => ?_
  rw [← Option.not_isSome, Bool.eq_iff_iff, Bool.not_eq_true', Bool.eq_false_iff, ne_eq,
    (records_bindAll calls).isSome_get?_iff, decide_eq_true_iff]

theorem bound_bindAll (calls : List (Source × γ)) :
    (bindAll calls).slots.bound = Source.all.filter (· ∈ sources calls) := by
  refine List.filter_congr fun source _ => ?_
  rw [Bool.eq_iff_iff, (records_bindAll calls).isSome_get?_iff, decide_eq_true_iff]

theorem missing_eq_nil_iff : missing calls = [] ↔ ∀ source, source ∈ sources calls := by
  simp [missing, List.filter_eq_nil_iff, Source.mem_all]

theorem build_of_firstAgain (h : FirstAgain calls source) :
    (bindAll calls).build = .error (.boundTwice source) ∧
      (bindAll calls).buildPartial = .error (.boundTwice source) := by
  have hagain := ((records_bindAll calls).again_eq_some_iff source).mpr h
  simp [build, buildPartial, hagain]

theorem build_of_nodup (h : (sources calls).Nodup) :
    (bindAll calls).build = if missing calls = [] then .ok ⟨(bindAll calls).slots⟩
      else .error (.incomplete (missing calls)) := by
  have hagain := (records_bindAll calls).again_eq_none_iff.mpr h
  simp [build, hagain, unbound_bindAll]

theorem buildPartial_of_nodup (h : (sources calls).Nodup) :
    (bindAll calls).buildPartial =
      if calls = [] then .error (.configuration "router has no gateway bindings")
      else .ok ⟨(bindAll calls).slots⟩ := by
  have hagain := (records_bindAll calls).again_eq_none_iff.mpr h
  have hbound : (bindAll calls).slots.bound = [] ↔ calls = [] := by
    rw [bound_bindAll, List.filter_eq_nil_iff]
    cases calls with
    | nil => simp [sources]
    | cons call calls =>
      refine iff_of_false (fun hnone => hnone call.1 call.1.mem_all ?_) (by simp)
      simp [sources]
  simp [buildPartial, hagain, hbound]

theorem exists_firstAgain_iff :
    (∃ source, FirstAgain calls source) ↔ ¬(sources calls).Nodup := by
  rw [← (records_bindAll calls).again_eq_none_iff, ← ne_eq, Option.ne_none_iff_exists']
  simp only [(records_bindAll calls).again_eq_some_iff]

/-! ## The order of the calls -/

theorem bindAll_perm {calls' : List (Source × γ)} (hperm : calls'.Perm calls)
    (h : (sources calls).Nodup) : bindAll calls' = bindAll calls := by
  have h' : (sources calls').Nodup := (hperm.map Prod.fst).nodup_iff.mpr h
  have hrecords := records_bindAll calls
  have hrecords' := records_bindAll calls'
  have hagain : (bindAll calls').again = (bindAll calls).again :=
    (hrecords'.again_eq_none_iff.mpr h').trans (hrecords.again_eq_none_iff.mpr h).symm
  have hslots : (bindAll calls').slots = (bindAll calls).slots := by
    refine Slots.ext_get? fun source => Option.ext fun g => ?_
    rw [hrecords'.get?_eq_some_iff h', hrecords.get?_eq_some_iff h, hperm.mem_iff]
  exact congrArg₂ Bindings.mk hslots hagain

end Bindings

/-- A router serves each source by the gateway that was bound to it, and no other. -/
structure Router.Serves (calls : List (Source × γ)) (r : Router γ) : Prop where
  select_eq_ok_iff : ∀ source g, r.select source = .ok g ↔ (source, g) ∈ calls
  select_unbound : ∀ source, source ∉ Bindings.sources calls →
    r.select source = .error (.unbound source)
  bound : r.slots.bound = Source.all.filter (· ∈ Bindings.sources calls)

theorem Router.serves_bindAll (h : (Bindings.sources calls).Nodup) :
    Router.Serves calls ⟨(Bindings.bindAll calls).slots⟩ where
  select_eq_ok_iff source g := by
    rw [← (Bindings.records_bindAll calls).get?_eq_some_iff h, Router.select]
    cases (Bindings.bindAll calls).slots.get? source <;> simp
  select_unbound source hfree := by
    rw [Router.select, (Bindings.records_bindAll calls).get?_eq_none hfree]
  bound := Bindings.bound_bindAll calls

namespace GatewayBindings

def bindAll (calls : List (Source × Gateway σ)) : Action Site (GatewayBindings σ) :=
  calls.foldlM (fun b call => b.bind call.1 call.2) empty

theorem result_foldlM_bind (calls : List (Source × Gateway σ)) (b : Bindings (Gateway σ))
    (site : Site) :
    (calls.foldlM (fun b call => b.bind call.1 call.2) (⟨b, b⟩ : GatewayBindings σ) site).result =
      .ok ⟨calls.foldl (fun b call => b.bind call.1 call.2) b,
        calls.foldl (fun b call => b.bind call.1 call.2) b⟩ := by
  induction calls generalizing b site with
  | nil => rfl
  | cons call calls ih =>
    rw [List.foldlM_cons, List.foldl_cons]
    exact (Action.result_bind_of_ok rfl).trans (ih (b.bind call.1 call.2) site)

theorem result_build (b : Bindings (Gateway σ)) (site : Site) :
    ((⟨b, b⟩ : GatewayBindings σ).build site).result = b.build.map fun r => ⟨r, r⟩ := by
  unfold build
  cases b.build <;> rfl

theorem result_buildPartial (b : Bindings (Gateway σ)) (site : Site) :
    ((⟨b, b⟩ : GatewayBindings σ).buildPartial site).result =
      b.buildPartial.map fun r => ⟨r, r⟩ := by
  unfold buildPartial
  cases b.buildPartial <;> rfl

end GatewayBindings

namespace Bindings

theorem nodup_of_build_eq_ok {r : Router γ}
    (h : (bindAll calls).build = .ok r ∨ (bindAll calls).buildPartial = .ok r) :
    (sources calls).Nodup := by
  refine not_not.mp fun hrepeats => ?_
  obtain ⟨source, hagain⟩ := exists_firstAgain_iff.mpr hrepeats
  obtain ⟨hbuild, hpartial⟩ := build_of_firstAgain hagain
  rw [hbuild, hpartial] at h
  simp at h

theorem count_sources_eq_one_iff :
    (∀ source, (sources calls).count source = 1) ↔
      (sources calls).Nodup ∧ ∀ source, source ∈ sources calls := by
  rw [List.nodup_iff_count_le_one, ← forall_and]
  refine forall_congr' fun source => ?_
  rw [← List.one_le_count_iff]
  omega

theorem exists_build_eq_ok_iff :
    (∃ r, (bindAll calls).build = .ok r) ↔ ∀ source, (sources calls).count source = 1 := by
  rw [count_sources_eq_one_iff, ← missing_eq_nil_iff]
  constructor
  · rintro ⟨r, h⟩
    have hnodup := nodup_of_build_eq_ok (.inl h)
    refine ⟨hnodup, not_not.mp fun hmissing => ?_⟩
    rw [build_of_nodup hnodup, if_neg hmissing] at h
    exact absurd h (by simp)
  · rintro ⟨hnodup, hmissing⟩
    exact ⟨_, (build_of_nodup hnodup).trans (if_pos hmissing)⟩

theorem exists_buildPartial_eq_ok_iff :
    (∃ r, (bindAll calls).buildPartial = .ok r) ↔ calls ≠ [] ∧ (sources calls).Nodup := by
  constructor
  · rintro ⟨r, h⟩
    have hnodup := nodup_of_build_eq_ok (.inr h)
    refine ⟨fun hnone => ?_, hnodup⟩
    rw [buildPartial_of_nodup hnodup, if_pos hnone] at h
    exact absurd h (by simp)
  · rintro ⟨hsome, hnodup⟩
    exact ⟨_, (buildPartial_of_nodup hnodup).trans (if_neg hsome)⟩

theorem serves_of_build_eq_ok {r : Router γ}
    (h : (bindAll calls).build = .ok r ∨ (bindAll calls).buildPartial = .ok r) :
    r.Serves calls := by
  have hnodup := nodup_of_build_eq_ok h
  rw [build_of_nodup hnodup, buildPartial_of_nodup hnodup] at h
  have hslots : r = ⟨(bindAll calls).slots⟩ := by
    rcases h with h | h <;> split at h
    · exact (Except.ok.inj h).symm
    · exact absurd h (by simp)
    · exact absurd h (by simp)
    · exact (Except.ok.inj h).symm
  rw [hslots]
  exact Router.serves_bindAll hnodup

/-- What comes of any calls. If a source repeats, building fails with the one that was first bound
again, whatever else is wrong. If none does, only missing sources are a fault, the order of the
calls does not count, and the router serves each source by its gateway. Commands and queries are
bound alike. -/
theorem outcome_of_bindAll (calls : List (Source × γ)) (gateways : List (Source × Gateway σ))
    (site : Site) :
    ((∃ r, (bindAll calls).build = .ok r) ↔ ∀ source, (sources calls).count source = 1) ∧
    ((∃ r, (bindAll calls).buildPartial = .ok r) ↔ calls ≠ [] ∧ (sources calls).Nodup) ∧
    ((∃ source, FirstAgain calls source) ↔ ¬(sources calls).Nodup) ∧
    (∀ source, FirstAgain calls source →
      (bindAll calls).build = .error (.boundTwice source) ∧
        (bindAll calls).buildPartial = .error (.boundTwice source)) ∧
    ((sources calls).Nodup → missing calls ≠ [] →
      (bindAll calls).build = .error (.incomplete (missing calls))) ∧
    (∀ r, (bindAll calls).build = .ok r ∨ (bindAll calls).buildPartial = .ok r →
      r.Serves calls) ∧
    ((sources calls).Nodup → ∀ calls', calls'.Perm calls → bindAll calls' = bindAll calls) ∧
    ((GatewayBindings.bindAll gateways >>= GatewayBindings.build) site).result =
      (bindAll gateways).build.map (fun r => ⟨r, r⟩) ∧
    ((GatewayBindings.bindAll gateways >>= GatewayBindings.buildPartial) site).result =
      (bindAll gateways).buildPartial.map (fun r => ⟨r, r⟩) := by
  have hgateways := GatewayBindings.result_foldlM_bind gateways empty site
  refine ⟨exists_build_eq_ok_iff, exists_buildPartial_eq_ok_iff, exists_firstAgain_iff,
    fun _ => build_of_firstAgain, fun hnodup hmissing => ?_, fun _ => serves_of_build_eq_ok,
    fun hnodup _ hperm => bindAll_perm hperm hnodup, ?_, ?_⟩
  · rw [build_of_nodup hnodup, if_neg hmissing]
  · exact (Action.result_bind_of_ok hgateways).trans (GatewayBindings.result_build _ _)
  · exact (Action.result_bind_of_ok hgateways).trans (GatewayBindings.result_buildPartial _ _)

/-- Two sources are bound again and one is missing. -/
example : (bindAll [(.sheet, 1), (.tracker, 2), (.tracker, 3), (.sheet, 4), (.tracker, 5)]).build =
    .error (.boundTwice .tracker) := rfl

end Bindings

end CaseRouting
