import LeftRec.Proofs.Finished

/-!
# The table of a state — what is found after a change

Looking up sees what was stored last for a rule and a position, and nothing else that happens to a
state.  A memoized rule stores either the fresh outcome or a success that was there before.
-/

namespace LeftRec

variable {S : Signature} {T : Type → Type} [MemoTable T]

/-! ## Changes that leave the table alone -/

namespace State

variable {state : State S T} {kind kind' : S.Kind} {key key' : Key} {pos pos' : Nat}

@[simp]
theorem lookup_note (event : Event) :
    (state.note event).lookup kind key pos = state.lookup kind key pos := rfl

@[simp]
theorem lookup_count (label : String) :
    (state.count label).lookup kind key pos = state.lookup kind key pos := rfl

@[simp]
theorem lookup_elim_note (event : Option Event) :
    (event.elim state state.note).lookup kind key pos = state.lookup kind key pos := by
  cases event <;> rfl

omit [MemoTable T] in
@[simp]
theorem memo_elim_note (event : Option Event) :
    (event.elim state state.note).memo = state.memo := by
  cases event <;> rfl

omit [MemoTable T] in
@[simp]
theorem counts_elim_note (event : Option Event) :
    (event.elim state state.note).counts = state.counts := by
  cases event <;> rfl

/-- What is found is an entry of the given kind. -/
theorem lookup_eq_some {o : Outcome (S.Value kind)} {under : Context} :
    state.lookup kind key pos = some (o, under) ↔
      MemoTable.get? state.memo (key, pos) = some { kind, outcome := o, context := under } := by
  constructor
  · intro h
    obtain ⟨entry, hget, hentry⟩ := Option.bind_eq_some_iff.1 h
    obtain ⟨o', ho, heq⟩ := Option.map_eq_some_iff.1 hentry
    obtain ⟨rfl, rfl⟩ := Prod.mk.inj heq
    obtain ⟨own, outcome, context⟩ := entry
    simp only [Entry.outcome?] at ho
    split at ho
    next hkind =>
      obtain rfl := hkind
      obtain rfl := Option.some.inj ho
      exact hget
    next => cases ho
  · intro h
    have hself := Entry.outcome?_self (S := S) { kind, outcome := o, context := under }
    simp only at hself
    simp [lookup, h, hself]

/-- No entry may be found in the table. -/
def NoEntries (state : State S T) : Prop :=
  ∀ kind key pos, state.lookup kind key pos = none

/-- Then the table has no entry of any kind. -/
theorem NoEntries.get?_eq_none (h : state.NoEntries) (slot : Slot) :
    MemoTable.get? state.memo slot = none := by
  cases hget : MemoTable.get? state.memo slot with
  | none => rfl
  | some entry =>
      have hlookup := h entry.kind slot.1 slot.2
      simp [State.lookup, hget] at hlookup

/-! ## Storing -/

variable [LawfulMemoTable T]

theorem noEntries_new : (new : State S T).NoEntries := by
  intro kind key pos
  simp [lookup, new, LawfulMemoTable.get?_empty]

theorem noEntries_clear (state : State S T) : state.clear.NoEntries := by
  intro kind key pos
  simp [lookup, clear, LawfulMemoTable.get?_empty]

theorem lookup_store_self (o : Outcome (S.Value kind)) (context : Context) :
    (state.store key pos { kind, outcome := o, context }).lookup kind key pos =
      some (o, context) := by
  have hself := Entry.outcome?_self (S := S) { kind, outcome := o, context }
  simp only at hself
  simp [lookup, store, LawfulMemoTable.get?_insert, hself]

theorem lookup_store_of_ne {entry : Entry S} (h : (key, pos) ≠ (key', pos')) :
    (state.store key pos entry).lookup kind key' pos' = state.lookup kind key' pos' := by
  simp [lookup, store, LawfulMemoTable.get?_insert, h]

theorem lookup_store_of_kind_ne {entry : Entry S} (h : entry.kind ≠ kind) :
    (state.store key pos entry).lookup kind key pos = none := by
  simp [lookup, store, LawfulMemoTable.get?_insert, Entry.outcome?, h]

/-- What is found after storing is what was stored or what was found before. -/
theorem lookup_store_cases {o : Outcome (S.Value kind)} {context under : Context}
    {o' : Outcome (S.Value kind')}
    (h : (state.store key pos { kind, outcome := o, context }).lookup kind' key' pos' =
      some (o', under)) :
    (key' = key ∧ pos' = pos ∧ ∃ hkind : kind = kind', hkind ▸ o = o' ∧ under = context) ∨
      state.lookup kind' key' pos' = some (o', under) := by
  by_cases hslot : (key, pos) = (key', pos')
  · obtain ⟨rfl, rfl⟩ := Prod.mk.inj hslot
    by_cases hkind : kind = kind'
    · subst hkind
      rw [lookup_store_self] at h
      obtain ⟨rfl, rfl⟩ := Prod.mk.inj (Option.some.inj h)
      exact .inl ⟨rfl, rfl, rfl, rfl, rfl⟩
    · rw [lookup_store_of_kind_ne hkind] at h
      cases h
  · rw [lookup_store_of_ne hslot] at h
    exact .inr h

end State

/-! ## What a memoized rule keeps -/

namespace Run

variable {input : Input S.Token} {kind : S.Kind} {parity : Parity} {key : Key} {pos : Nat}
variable {ctx : Context} {fresh : Outcome (S.Value kind)} {middle : State S T}

/-- A preferred success was in the table. -/
theorem lookup_of_preferred {remaining : Nat} {α : Type} {fresh : Outcome α}
    {stored : Option (Outcome α × Context)} {s : Success α}
    (h : preferred parity remaining ctx fresh stored = some s) :
    ∃ under, stored = some (.success s, under) := by
  unfold preferred at h
  split at h
  · split at h
    · obtain rfl := Option.some.inj h
      exact ⟨_, rfl⟩
    · cases h
  · split at h
    · obtain rfl := Option.some.inj h
      exact ⟨_, rfl⟩
    · cases h
  · cases h

/-- Nothing is preferred to an outcome that is in the table already. -/
theorem preferred_eq_none {α : Type} {parity : Parity} {remaining : Nat} {fresh : Outcome α}
    {stored : Option (Outcome α × Context)}
    (h : ∀ o under, stored = some (o, under) → o = fresh) :
    preferred parity remaining ctx fresh stored = none := by
  cases stored with
  | none => cases fresh <;> rfl
  | some pair =>
      obtain ⟨o, under⟩ := pair
      obtain rfl := h o under rfl
      cases o with
      | success s => simp [preferred]
      | failure e => rfl

theorem keep_of_none
    (h : preferred parity (input.remaining pos) ctx fresh (middle.lookup kind key pos) = none) :
    keep input kind parity key pos ctx fresh middle = (fresh, middle.store key pos
      { kind, outcome := fresh, context := ctx.pruned fresh.used }) := by
  simp only [keep, h, settle]
  rfl

theorem keep_fst_of_none
    (h : preferred parity (input.remaining pos) ctx fresh (middle.lookup kind key pos) = none) :
    (keep input kind parity key pos ctx fresh middle).1 = fresh := by
  rw [keep_of_none h]

theorem keep_fst_of_some {s : Success (S.Value kind)}
    (h : preferred parity (input.remaining pos) ctx fresh (middle.lookup kind key pos) = some s) :
    (keep input kind parity key pos ctx fresh middle).1 = .success s := by
  simp only [keep, h, settle]

/-- Keeping an outcome stores it. -/
theorem keep_snd_memo :
    (keep input kind parity key pos ctx fresh middle).2.memo =
      MemoTable.insert middle.memo (key, pos)
        { kind
          outcome := (keep input kind parity key pos ctx fresh middle).1
          context := ctx.pruned (keep input kind parity key pos ctx fresh middle).1.used } := by
  simp only [keep, State.store, State.memo_elim_note]

/-- Keeping an outcome counts nothing. -/
theorem keep_snd_counts :
    (keep input kind parity key pos ctx fresh middle).2.counts = middle.counts := by
  simp only [keep, State.store, State.counts_elim_note]

variable (input parity key pos ctx fresh middle) in
/-- A rule keeps the fresh outcome or a success that its body left in the table. -/
theorem keep_fst_cases :
    (keep input kind parity key pos ctx fresh middle).1 = fresh ∨
      ∃ s under, middle.lookup kind key pos = some (.success s, under) ∧
        (keep input kind parity key pos ctx fresh middle).1 = .success s := by
  cases h : preferred parity (input.remaining pos) ctx fresh (middle.lookup kind key pos) with
  | none => exact .inl (keep_fst_of_none h)
  | some s =>
      obtain ⟨under, hlookup⟩ := lookup_of_preferred h
      exact .inr ⟨s, under, hlookup, keep_fst_of_some h⟩

variable [LawfulMemoTable T]

/-- What a rule keeps is found in the table afterwards. -/
theorem lookup_keep_self :
    (keep input kind parity key pos ctx fresh middle).2.lookup kind key pos =
      some ((keep input kind parity key pos ctx fresh middle).1,
        ctx.pruned (keep input kind parity key pos ctx fresh middle).1.used) :=
  State.lookup_store_self _ _

theorem lookup_keep_cases {kind' : S.Kind} {key' : Key} {pos' : Nat}
    {o : Outcome (S.Value kind')} {under : Context}
    (h : (keep input kind parity key pos ctx fresh middle).2.lookup kind' key' pos' =
      some (o, under)) :
    (key' = key ∧ pos' = pos ∧ ∃ hkind : kind = kind',
      hkind ▸ (keep input kind parity key pos ctx fresh middle).1 = o ∧
      under = ctx.pruned (keep input kind parity key pos ctx fresh middle).1.used) ∨
      middle.lookup kind' key' pos' = some (o, under) :=
  (State.lookup_store_cases h).imp_right fun h => (State.lookup_elim_note _).symm.trans h

end Run

end LeftRec
