import CaseRouting.Action
import Mathlib.Tactic

/-!
# Sequences of actions

How a sequence of steps that may fail ends, for plain results and for actions on a state.
-/

namespace CaseRouting

section Results

variable {ε α β : Type}

@[simp] theorem pure_eq_ok (a : α) : (Pure.pure a : Except ε α) = .ok a := rfl

@[simp] theorem throw_eq_error (e : ε) : (throw e : Except ε α) = .error e := rfl

@[simp] theorem ok_bind (a : α) (f : α → Except ε β) : (Except.ok a >>= f) = f a := rfl

@[simp] theorem error_bind (e : ε) (f : α → Except ε β) :
    ((Except.error e : Except ε α) >>= f) = .error e := rfl

theorem bind_eq_ok_iff {x : Except ε α} {f : α → Except ε β} {b : β} :
    x >>= f = .ok b ↔ ∃ a, x = .ok a ∧ f a = .ok b := by
  cases x <;> simp

theorem map_eq_ok_iff {x : Except ε α} {f : α → β} {b : β} :
    f <$> x = .ok b ↔ ∃ a, x = .ok a ∧ f a = b := by
  cases x <;> simp [Functor.map, Except.map]

/-- Every element has its result, in the same order. -/
theorem mapM_eq_ok_iff {f : α → Except ε β} {as : List α} {bs : List β} :
    as.mapM f = .ok bs ↔ List.Forall₂ (fun a b => f a = .ok b) as bs := by
  induction as generalizing bs with
  | nil => cases bs <;> simp
  | cons a as ih =>
    rw [List.mapM_cons, bind_eq_ok_iff]
    cases bs with
    | nil => simp [bind_eq_ok_iff]
    | cons b bs => simp [bind_eq_ok_iff, ih]

theorem exists_of_forall₂_of_mem {R : α → β → Prop} {as : List α} {bs : List β}
    (h : List.Forall₂ R as bs) {b : β} (hb : b ∈ bs) : ∃ a ∈ as, R a b := by
  induction h with
  | nil => simp at hb
  | cons hab _ ih =>
    rcases List.mem_cons.mp hb with rfl | hb
    · exact ⟨_, List.mem_cons_self, hab⟩
    · obtain ⟨a, ha, hr⟩ := ih hb
      exact ⟨a, List.mem_cons_of_mem _ ha, hr⟩

end Results

namespace Action

variable {σ α β : Type} {x : Action σ α} {f : α → Action σ β} {s : σ}

@[simp] theorem result_pure (a : α) : ((Pure.pure a : Action σ α) s).result = .ok a := rfl

@[simp] theorem state_pure (a : α) : ((Pure.pure a : Action σ α) s).state = s := rfl

@[simp] theorem result_ofExcept (e : Except Fault α) : (ofExcept e s).result = e := rfl

@[simp] theorem state_ofExcept (e : Except Fault α) : (ofExcept e s).state = s := rfl

@[simp] theorem result_log (event : Log.Event) : (log event s).result = .ok () := rfl

@[simp] theorem get_bind (f : σ → Action σ β) : (get >>= f) s = f s s := rfl

@[simp] theorem ofExcept_ok_bind (a : α) : (ofExcept (.ok a) >>= f) s = f a s := rfl

@[simp] theorem ofExcept_error_bind (e : Fault) :
    (ofExcept (.error e) >>= f) s = ⟨.error e, s, []⟩ := rfl

theorem ofExcept_bind_ofExcept_bind {γ : Type} (e : Except Fault α) (k : α → Except Fault β)
    (g : β → Action σ γ) :
    (ofExcept e >>= fun a => ofExcept (k a) >>= g) = ofExcept (e >>= k) >>= g := by
  cases e <;> rfl

@[simp] theorem set_apply (t : σ) : (set t) s = ⟨.ok (), t, []⟩ := rfl

@[simp] theorem fail_apply (e : Fault) : (fail e : Action σ α) s = ⟨.error e, s, []⟩ := rfl

theorem bind_of_ok {a : α} (h : (x s).result = .ok a) :
    (x >>= f) s = { f a (x s).state with events := (x s).events ++ (f a (x s).state).events } := by
  change Action.bind x f s = _
  rw [Action.bind]
  generalize x s = done at h
  rcases done with ⟨result, t, events⟩
  obtain rfl : result = .ok a := h
  rfl

theorem bind_of_error {e : Fault} (h : (x s).result = .error e) :
    (x >>= f) s = ⟨.error e, (x s).state, (x s).events⟩ := by
  change Action.bind x f s = _
  rw [Action.bind]
  generalize x s = done at h
  rcases done with ⟨result, t, events⟩
  obtain rfl : result = .error e := h
  rfl

theorem result_bind_of_ok {a : α} (h : (x s).result = .ok a) :
    ((x >>= f) s).result = (f a (x s).state).result := by rw [bind_of_ok h]

theorem state_bind_of_ok {a : α} (h : (x s).result = .ok a) :
    ((x >>= f) s).state = (f a (x s).state).state := by rw [bind_of_ok h]

theorem events_bind_of_ok {a : α} (h : (x s).result = .ok a) :
    ((x >>= f) s).events = (x s).events ++ (f a (x s).state).events := by rw [bind_of_ok h]

theorem result_bind_of_error {e : Fault} (h : (x s).result = .error e) :
    ((x >>= f) s).result = .error e := by rw [bind_of_error h]

theorem state_bind_of_error {e : Fault} (h : (x s).result = .error e) :
    ((x >>= f) s).state = (x s).state := by rw [bind_of_error h]

theorem events_bind_of_error {e : Fault} (h : (x s).result = .error e) :
    ((x >>= f) s).events = (x s).events := by rw [bind_of_error h]

theorem result_bind_eq_ok_iff {b : β} :
    ((x >>= f) s).result = .ok b ↔
      ∃ a, (x s).result = .ok a ∧ (f a (x s).state).result = .ok b := by
  cases h : (x s).result with
  | error e => simp [result_bind_of_error h]
  | ok a => simp [result_bind_of_ok h]

@[simp] theorem result_log_bind (event : Log.Event) (f : Unit → Action σ β) :
    ((log event >>= f) s).result = (f () s).result := rfl

@[simp] theorem state_log_bind (event : Log.Event) (f : Unit → Action σ β) :
    ((log event >>= f) s).state = (f () s).state := rfl

theorem isOk_result_bind_pure (g : α → β) :
    ((x >>= fun a => Pure.pure (g a)) s).result.isOk = (x s).result.isOk := by
  cases h : (x s).result with
  | error e =>
    rw [result_bind_of_error h]
    rfl
  | ok a =>
    rw [result_bind_of_ok h]
    rfl

/-- The second of two actions begins where the first ended, if that succeeded. -/
theorem bind_cases (x : Action σ α) (f : α → Action σ β) (s : σ) :
    (∃ e, (x s).result = .error e ∧ ((x >>= f) s).result = .error e ∧
        ((x >>= f) s).state = (x s).state) ∨
      ∃ a, (x s).result = .ok a ∧ ((x >>= f) s).result = (f a (x s).state).result ∧
        ((x >>= f) s).state = (f a (x s).state).state := by
  cases h : (x s).result with
  | error e => exact .inl ⟨e, rfl, result_bind_of_error h, state_bind_of_error h⟩
  | ok a => exact .inr ⟨a, rfl, result_bind_of_ok h, state_bind_of_ok h⟩

theorem result_eq_error_of_bind_pure {g : α → β} {e : Fault}
    (h : ((x >>= fun a => Pure.pure (g a)) s).result = .error e) : (x s).result = .error e := by
  cases hx : (x s).result with
  | error e' =>
    rw [result_bind_of_error hx] at h
    exact congrArg Except.error (Except.error.inj h)
  | ok a =>
    rw [result_bind_of_ok hx, result_pure] at h
    exact absurd h (by simp)

def KeepsState (x : Action σ α) : Prop := ∀ s, (x s).state = s

theorem keepsState_pure (a : α) : (Pure.pure a : Action σ α).KeepsState := fun _ => rfl

theorem keepsState_ofExcept (e : Except Fault α) : (ofExcept e : Action σ α).KeepsState :=
  fun _ => rfl

theorem keepsState_log (event : Log.Event) : (log event : Action σ Unit).KeepsState :=
  fun _ => rfl

theorem KeepsState.bind (hx : x.KeepsState) (hf : ∀ a, (f a).KeepsState) :
    (x >>= f).KeepsState := by
  intro s
  cases h : (x s).result with
  | error e => rw [state_bind_of_error h, hx s]
  | ok a => rw [state_bind_of_ok h, hf a, hx s]

theorem state_bind_of_keepsState (hf : ∀ a, (f a).KeepsState) :
    ((x >>= f) s).state = (x s).state := by
  cases h : (x s).result with
  | error e => rw [state_bind_of_error h]
  | ok a => rw [state_bind_of_ok h, hf a]

theorem state_bind_pure (g : α → β) :
    ((x >>= fun a => Pure.pure (g a)) s).state = (x s).state :=
  state_bind_of_keepsState fun a => keepsState_pure (g a)

theorem within_bind_pure {τ : Type} (part : τ → σ) (replace : σ → τ → τ) (g : α → β) :
    (x.within part replace >>= fun a => Pure.pure (g a)) =
      (x >>= fun a => Pure.pure (g a)).within part replace := by
  funext t
  change Action.bind (x.within part replace) _ t = Action.within part replace (Action.bind x _) t
  unfold Action.bind within
  dsimp only
  rcases x (part t) with ⟨_ | a, s, events⟩ <;> rfl

/-- However an action ends, the state that it leaves is in relation to the one in which it began. -/
def Respects (R : σ → σ → Prop) (x : Action σ α) : Prop := ∀ s, R s (x s).state

theorem Respects.bind {R : σ → σ → Prop} [IsTrans σ R] (hx : x.Respects R)
    (hf : ∀ a, (f a).Respects R) : (x >>= f).Respects R := by
  intro s
  rcases bind_cases x f s with ⟨e, _, _, hstate⟩ | ⟨a, _, _, hstate⟩
  · rw [hstate]
    exact hx s
  · rw [hstate]
    exact IsTrans.trans _ _ _ (hx s) (hf a _)

theorem KeepsState.respects {R : σ → σ → Prop} [Std.Refl R] (hx : x.KeepsState) :
    x.Respects R := by
  intro s
  rw [hx s]
  exact refl s

def FailsCleanly (x : Action σ α) : Prop := ∀ s e, (x s).result = .error e → (x s).state = s

theorem KeepsState.failsCleanly (hx : x.KeepsState) : x.FailsCleanly := fun s _ _ => hx s

theorem failsCleanly_fail (e : Fault) : (fail e : Action σ α).FailsCleanly := fun _ _ _ => rfl

theorem KeepsState.failsCleanly_bind (hx : x.KeepsState) (hf : ∀ a, (f a).FailsCleanly) :
    (x >>= f).FailsCleanly := by
  intro s e h
  cases hr : (x s).result with
  | error e => rw [state_bind_of_error hr, hx s]
  | ok a =>
    rw [result_bind_of_ok hr] at h
    rw [state_bind_of_ok hr, hf a _ _ h, hx s]

theorem FailsCleanly.bind_pure (hx : x.FailsCleanly) (g : α → β) :
    (x >>= fun a => Pure.pure (g a)).FailsCleanly := by
  intro s e h
  rw [state_bind_pure]
  exact hx s e (result_eq_error_of_bind_pure h)

end Action

end CaseRouting
