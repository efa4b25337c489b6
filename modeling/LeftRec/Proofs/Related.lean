import LeftRec.Eval

/-!
# Related computations — two computations that go the same way

Two computations over states of their own may use up their fuel together, be stopped by one fault or
finish with related values.  The relation of their values and that of their states are parameters,
and the effects and sequencing of computations keep them.
-/

namespace LeftRec

variable {α β γ δ : Type}

/-- Two choices by equivalent conditions are related if both alternatives are. -/
theorem ite_rel {R : α → β → Prop} {c c' : Prop} [Decidable c] [Decidable c'] {a a' : α} {b b' : β}
    (hc : c ↔ c') (h : c → R a b) (h' : ¬ c → R a' b') :
    R (if c then a else a') (if c' then b else b') := by
  by_cases hcase : c
  · rw [if_pos hcase, if_pos (hc.1 hcase)]
    exact h hcase
  · rw [if_neg hcase, if_neg (mt hc.2 hcase)]
    exact h' hcase

/-! ## Results -/

/-- Two results of one form, with related values and states. -/
inductive Result.Rel {σ σ' α β : Type} (R : α → β → Prop) (Q : σ → σ' → Prop) :
    Result σ α → Result σ' β → Prop
  | exhausted : Rel R Q .exhausted .exhausted
  | stopped {fault : Fault} {state : σ} {state' : σ'} :
      Q state state' → Rel R Q (.stopped fault state) (.stopped fault state')
  | done {a : α} {b : β} {state : σ} {state' : σ'} :
      R a b → Q state state' → Rel R Q (.done a state) (.done b state')

theorem Result.Rel.mono {σ σ' : Type} {R R' : α → β → Prop} {Q Q' : σ → σ' → Prop}
    {r : Result σ α} {r' : Result σ' β} (h : r.Rel R Q r') (hR : ∀ a b, R a b → R' a b)
    (hQ : ∀ s s', Q s s' → Q' s s') : r.Rel R' Q' r' := by
  cases h with
  | exhausted => exact .exhausted
  | stopped hs => exact .stopped (hQ _ _ hs)
  | done hab hs => exact .done (hR _ _ hab) (hQ _ _ hs)

theorem Result.Rel.of_done {σ σ' : Type} {R : α → β → Prop} {Q : σ → σ' → Prop} {a : α} {state : σ}
    {r : Result σ' β} (h : (Result.done a state).Rel R Q r) :
    ∃ b state', r = .done b state' ∧ R a b ∧ Q state state' := by
  cases h with
  | done hab hs => exact ⟨_, _, rfl, hab, hs⟩

theorem Result.Rel.of_done_right {σ σ' : Type} {R : α → β → Prop} {Q : σ → σ' → Prop} {b : β}
    {state' : σ'} {r : Result σ α} (h : r.Rel R Q (.done b state')) :
    ∃ a state, r = .done a state ∧ R a b ∧ Q state state' := by
  cases h with
  | done hab hs => exact ⟨_, _, rfl, hab, hs⟩

/-- From related states, two computations come to related results. -/
def Eval.Rel {σ σ' α β : Type} (R : α → β → Prop) (Q : σ → σ' → Prop) (x : Eval σ α)
    (y : Eval σ' β) : Prop :=
  ∀ ⦃state state'⦄, Q state state' → (x state).Rel R Q (y state')

namespace Eval

variable {σ σ' : Type} {R : α → β → Prop} {R' : γ → δ → Prop} {Q : σ → σ' → Prop}

theorem rel_pure {a : α} {b : β} (h : R a b) :
    Eval.Rel R Q (pure a : Eval σ α) (pure b : Eval σ' β) :=
  fun _ _ hs => .done h hs

theorem rel_exhausted : Eval.Rel R Q (exhausted : Eval σ α) (exhausted : Eval σ' β) :=
  fun _ _ _ => .exhausted

theorem rel_fault (fault : Fault) :
    Eval.Rel R Q (Eval.fault fault : Eval σ α) (Eval.fault fault : Eval σ' β) :=
  fun _ _ hs => .stopped hs

theorem rel_ofExcept (x : Except Fault α) :
    Eval.Rel Eq Q (ofExcept x : Eval σ α) (ofExcept x : Eval σ' α) := by
  cases x with
  | ok a => exact rel_pure rfl
  | error fault => exact rel_fault fault

theorem rel_read {f : σ → α} {g : σ' → β} (h : ∀ s s', Q s s' → R (f s) (g s')) :
    Eval.Rel R Q (read f) (read g) :=
  fun s s' hs => .done (h s s' hs) hs

theorem rel_change {f : σ → σ} {g : σ' → σ'} (h : ∀ s s', Q s s' → Q (f s) (g s')) :
    Eval.Rel Eq Q (change f) (change g) :=
  fun s s' hs => .done rfl (h s s' hs)

theorem Rel.bind {x : Eval σ α} {y : Eval σ' β} {f : α → Eval σ γ} {g : β → Eval σ' δ}
    (hx : Eval.Rel R Q x y) (hf : ∀ a b, R a b → Eval.Rel R' Q (f a) (g b)) :
    Eval.Rel R' Q (x >>= f) (y >>= g) := by
  intro state state' hs
  have h := hx hs
  rw [bind_apply, bind_apply]
  generalize x state = first at h
  generalize y state' = first' at h
  cases h with
  | exhausted => exact .exhausted
  | stopped hnext => exact .stopped hnext
  | done hab hnext => exact hf _ _ hab hnext

theorem Rel.map {x : Eval σ α} {y : Eval σ' β} {f : α → γ} {g : β → δ} (hx : Eval.Rel R Q x y)
    (hf : ∀ a b, R a b → R' (f a) (g b)) : Eval.Rel R' Q (f <$> x) (g <$> y) := by
  rw [map_eq_pure_bind, map_eq_pure_bind]
  exact hx.bind fun a b hab => rel_pure (hf a b hab)

end Eval

end LeftRec
