import LeftRec.Proofs.Plain

/-!
# Growth — one step more at a time

What `base` comes to at a position, what a step comes to at every position, and how their values are
joined determine what so many steps lead to.  Taking the last step first or last makes no
difference, and once no step is left a success stays as it is.
-/

namespace LeftRec

variable {S : Signature} {T : Type → Type} {α β : Type}

/-! ## Merging failures -/

theorem Expectation.extend_of_subset {e : Expectation} {more : List String}
    (h : ∀ what ∈ more, what ∈ e.items) : e.extend more = e := by
  induction more with
  | nil => rfl
  | cons what rest ih =>
      have hpush : e.push what = e := dif_pos (h what List.mem_cons_self)
      show (e.push what).extend rest = e
      rw [hpush]
      exact ih fun other hother => h other (List.mem_cons_of_mem _ hother)

theorem Reason.mergeTied_self {reason : Reason} : reason.mergeTied reason = reason := by
  cases reason with
  | expected what => exact congrArg expected (Expectation.extend_of_subset fun _ h => h)
  | fatal | curtailment | stated => rfl

theorem Failure.merge_self {e : Failure} (he : e.isFatal = false) (hused : e.used = ∅)
    (used : Used) : ({ e with used } : Failure).merge e = { e with used } := by
  obtain ⟨reason, pos, _⟩ := e
  simp only at hused
  subst hused
  simp only [Failure.isFatal] at he
  simp [Failure.merge, Failure.isFatal, he, Reason.mergeTied_self]
  rfl

theorem Failure.curtailment_merge {e : Failure} {pos : Nat} (hpos : pos ≤ e.pos)
    (hused : e.used = ∅) (used : Used) :
    (⟨.curtailment, pos, used⟩ : Failure).merge e = { e with used } := by
  have hunion : used.union e.used = used := by
    rw [hused]
    rfl
  simp only [Failure.merge, hunion]
  split
  next h => cases h
  next =>
    split
    next => rfl
    next =>
      split
      next h => omega
      next => rfl

/-! ## Steps from a success -/

/-- What a recursion begins with at a position, what a step comes to at each position, and how a
step's value is joined to those before it. -/
structure Growth {τ : Type} (input : Input τ) (pos : Nat) (α β : Type) where
  start : Except Fault (Outcome α)
  steps : Nat → Except Fault (Outcome β)
  join : α × β → α
  start_clean : ∀ o, start = .ok o → o.Clean input pos
  steps_clean : ∀ middle o, input.Boundary middle → steps middle = .ok o → o.Clean input middle
  steps_move : ∀ middle t, input.Boundary middle → steps middle = .ok (.success t) →
    t.pos ≠ middle

namespace Growth

variable {τ : Type} {input : Input τ} {pos : Nat} (growth : Growth input pos α β)

/-- One more step joined to a success. -/
def extend (s : Success α) (t : Success β) : Success α :=
  { value := growth.join (s.value, t.value), pos := t.pos, used := ∅ }

/-- At most so many steps from a success on. -/
def grown : Nat → Success α → Except Fault (Outcome α)
  | 0, s => .ok (.success s)
  | n + 1, s =>
      match growth.steps s.pos with
      | .error fault => .error fault
      | .ok (.failure e) => .ok (if e.isFatal then .failure e else .success s)
      | .ok (.success t) => grown n (growth.extend s t)

/-- What the level comes to that has so many levels inside before the one that is curtailed. -/
def level (n : Nat) : Except Fault (Outcome α) :=
  match growth.start with
  | .error fault => .error fault
  | .ok (.failure e) => .ok (.failure e)
  | .ok (.success s) => growth.grown n s

/-- The last step is one step from where the others led. -/
theorem grown_succ (n : Nat) (s : Success α) :
    growth.grown (n + 1) s =
      match growth.grown n s with
      | .error fault => .error fault
      | .ok (.failure e) => .ok (.failure e)
      | .ok (.success last) => growth.grown 1 last := by
  induction n generalizing s with
  | zero => rfl
  | succ n ih =>
      rw [grown]
      -- Both sides take the same first step, and differ only in what is done behind it.
      conv => rhs; rw [grown]
      cases hstep : growth.steps s.pos with
      | error fault => rfl
      | ok o =>
          cases o with
          | success t => exact ih _
          | failure e =>
              cases he : e.isFatal with
              | true => simp only [he, if_true]
              | false => simp [grown, hstep, he]

theorem level_zero :
    growth.level 0 = growth.start := by
  unfold level
  split
  next h => exact h.symm
  next h => exact h.symm
  next h => exact h.symm

theorem level_succ (n : Nat) :
    growth.level (n + 1) =
      match growth.level n with
      | .error fault => .error fault
      | .ok (.failure e) => .ok (.failure e)
      | .ok (.success last) => growth.grown 1 last := by
  unfold level
  cases growth.start with
  | error fault => rfl
  | ok o =>
      cases o with
      | failure e => rfl
      | success s => exact growth.grown_succ n s

/-! ### Where growth leads -/

variable {growth}

theorem grown_boundary {n : Nat} {s last : Success α} (hs : input.Boundary s.pos)
    (h : growth.grown n s = .ok (.success last)) :
    input.Boundary last.pos ∧ input.remaining last.pos ≤ input.remaining s.pos ∧
      (last = s ∨ s.pos < last.pos) := by
  induction n generalizing s with
  | zero =>
      obtain rfl := Outcome.success.inj (Except.ok.inj h)
      exact ⟨hs, Nat.le_refl _, .inl rfl⟩
  | succ n ih =>
      rw [grown] at h
      split at h
      next => cases h
      next e _ =>
        split at h
        · cases h
        · obtain rfl := Outcome.success.inj (Except.ok.inj h)
          exact ⟨hs, Nat.le_refl _, .inl rfl⟩
      next t hstep =>
        obtain ⟨word, hword⟩ := (growth.steps_clean s.pos _ hs hstep).onward
        -- Steps move on, so a success that has grown at all lies further on.
        have hmove : t.pos ≠ s.pos := growth.steps_move s.pos t hs hstep
        have hle : s.pos ≤ t.pos := hword.le
        have hremaining : input.remaining t.pos ≤ input.remaining s.pos := hword.remaining_le
        obtain ⟨hlast, hless, hnext⟩ := ih (s := growth.extend s t) (hword.boundary hs) h
        have hfrom : t.pos ≤ last.pos := by
          rcases hnext with rfl | hlt
          · exact Nat.le_refl _
          · exact Nat.le_of_lt hlt
        exact ⟨hlast, Nat.le_trans hless hremaining, .inr (by omega)⟩

theorem start_of_level_failure {n : Nat} {e : Failure} (h : growth.level n = .ok (.failure e))
    (he : e.isFatal = false) : growth.start = .ok (.failure e) := by
  unfold level at h
  split at h
  next => cases h
  next hstart => rw [hstart, h]
  next s hstart =>
    -- Growing stops at a success or at a fatal failure, and this failure is neither.
    suffices hgrown : ∀ n s, growth.grown n s ≠ .ok (.failure e) from (hgrown n s h).elim
    intro n
    induction n with
    | zero => exact fun s hs => nomatch hs
    | succ n ih =>
        intro s hs
        rw [grown] at hs
        split at hs
        next => cases hs
        next e' _ =>
          cases he' : e'.isFatal with
          | true =>
              simp only [he', if_true] at hs
              obtain rfl := Outcome.failure.inj (Except.ok.inj hs)
              rw [he] at he'
              cases he'
          | false =>
              simp only [he', Bool.false_eq_true, if_false] at hs
              cases hs
        next t _ => exact ih _ hs

/-- A level that succeeds grew out of a success of the start. -/
theorem start_of_level_success (hpos : input.Boundary pos) {n : Nat} {last : Success α}
    (h : growth.level n = .ok (.success last)) :
    ∃ s, growth.start = .ok (.success s) ∧ input.Boundary last.pos ∧
      input.remaining last.pos ≤ input.remaining pos ∧ (last = s ∨ s.pos < last.pos) := by
  unfold level at h
  split at h
  next => cases h
  next => cases h
  next s hstart =>
    obtain ⟨word, hword⟩ := (growth.start_clean _ hstart).onward
    obtain ⟨hlast, hless, hnext⟩ := grown_boundary (hword.boundary hpos) h
    exact ⟨s, hstart, hlast, Nat.le_trans hless hword.remaining_le, hnext⟩

end Growth

end LeftRec
