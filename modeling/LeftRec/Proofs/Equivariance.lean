import LeftRec.Proofs.Translation

/-!
# Equivariance — under other keys the same is parsed

Nothing depends on which keys the memoized rules have, as long as different rules keep different
ones.  If the keys of a grammar, of a context and of a table are renamed, then a run comes to the
renamed outcome and to the renamed table.  The order of the keys does not matter, though contexts
and used sets are kept in that order.
-/

namespace LeftRec

variable {S : Signature} {T T' : Type → Type} {α : Type} {r : Key → Key}

/-! ## Tables -/

@[simp]
theorem Entry.outcome?_rename (r : Key → Key) (entry : Entry S) (kind : S.Kind) :
    (entry.rename r).outcome? kind = (entry.outcome? kind).map (Outcome.rename r) := by
  obtain ⟨own, outcome, context⟩ := entry
  unfold Entry.outcome? Entry.rename
  by_cases hkind : own = kind
  · subst hkind
    simp only [dite_true, Option.map_some]
  · simp only [hkind, dite_false, Option.map_none]

variable [MemoTable T] [MemoTable T']

namespace MemoTable

/-- The second table has the entries of the first one under the new keys, and no others. -/
structure Renamed (r : Key → Key) (table : T (Entry S)) (table' : T' (Entry S)) : Prop where
  get?_rename : ∀ key pos,
    get? table' (r key, pos) = (get? table (key, pos)).map (Entry.rename r)
  get?_eq_none : ∀ key pos, (∀ k, r k ≠ key) → get? table' (key, pos) = none

/-- Enter the entries of a table under the new keys, slot by slot. -/
def renameInto (r : Key → Key) (table : T (Entry S)) : List Slot → T' (Entry S) → T' (Entry S)
  | [], renamed => renamed
  | slot :: rest, renamed =>
      renameInto r table rest ((get? table slot).elim renamed fun entry =>
        insert renamed (r slot.1, slot.2) (entry.rename r))

/-- The table with the new keys. -/
def rename (r : Key → Key) (table : T (Entry S)) : T' (Entry S) :=
  renameInto r table (slots table) empty

variable [LawfulMemoTable T] [LawfulMemoTable T'] {table : T (Entry S)} {table' : T' (Entry S)}

theorem Renamed.empty (r : Key → Key) :
    Renamed r (empty : T (Entry S)) (MemoTable.empty : T' (Entry S)) where
  get?_rename key pos := by
    rw [LawfulMemoTable.get?_empty, LawfulMemoTable.get?_empty, Option.map_none]
  get?_eq_none key pos _ := LawfulMemoTable.get?_empty _

theorem Renamed.insert (hr : Function.Injective r) (h : Renamed r table table') (key : Key)
    (pos : Nat) (entry : Entry S) :
    Renamed r (insert table (key, pos) entry)
      (MemoTable.insert table' (r key, pos) (entry.rename r)) where
  get?_rename other there := by
    rw [LawfulMemoTable.get?_insert, LawfulMemoTable.get?_insert, h.get?_rename]
    simp only [Prod.mk.injEq, hr.eq_iff]
    split
    · rfl
    · rfl
  get?_eq_none other there hother := by
    rw [LawfulMemoTable.get?_insert, if_neg, h.get?_eq_none other there hother]
    exact fun hslot => hother key (Prod.mk.inj hslot).1

omit [LawfulMemoTable T] in
/-- Of what was entered slot by slot, each slot that was gone through holds the renamed entry. -/
theorem get?_renameInto (hr : Function.Injective r) {slots : List Slot} {key : Key} {pos : Nat} :
    get? (renameInto r table slots table') (r key, pos) =
      (if (key, pos) ∈ slots then (get? table (key, pos)).map (Entry.rename r) else none).or
        (get? table' (r key, pos)) := by
  induction slots generalizing table' with
  | nil => rfl
  | cons slot rest ih =>
      rw [renameInto, ih]
      by_cases hslot : slot = (key, pos)
      · subst hslot
        rw [if_pos List.mem_cons_self]
        cases get? table (key, pos) with
        | none => simp
        | some entry => split <;> simp [LawfulMemoTable.get?_insert]
      · have hmem : (key, pos) ∈ slot :: rest ↔ (key, pos) ∈ rest := by
          rw [List.mem_cons, or_iff_right (Ne.symm hslot)]
        have hnew : (r slot.1, slot.2) ≠ (r key, pos) := fun heq =>
          hslot (Prod.ext (hr (Prod.mk.inj heq).1) (Prod.mk.inj heq).2)
        simp only [hmem]
        cases get? table slot with
        | none => rfl
        | some entry => rw [Option.elim_some, LawfulMemoTable.get?_insert, if_neg hnew]

omit [LawfulMemoTable T] in
theorem get?_renameInto_of_not_range {slots : List Slot} {key : Key} {pos : Nat}
    (h : ∀ k, r k ≠ key) :
    get? (renameInto r table slots table') (key, pos) = get? table' (key, pos) := by
  induction slots generalizing table' with
  | nil => rfl
  | cons slot rest ih =>
      rw [renameInto, ih]
      cases get? table slot with
      | none => rfl
      | some entry =>
          have hnew : (r slot.1, slot.2) ≠ (key, pos) := fun heq => h slot.1 (Prod.mk.inj heq).1
          rw [Option.elim_some, LawfulMemoTable.get?_insert, if_neg hnew]

/-- Every table can be renamed. -/
theorem renamed_rename (hr : Function.Injective r) (table : T (Entry S)) :
    Renamed r table (rename r table : T' (Entry S)) where
  get?_rename key pos := by
    rw [rename, get?_renameInto hr, LawfulMemoTable.get?_empty, Option.or_none]
    split
    next => rfl
    next hslot =>
      rw [LawfulMemoTable.mem_slots, Bool.not_eq_true, Option.isSome_eq_false_iff,
        Option.isNone_iff_eq_none] at hslot
      rw [hslot, Option.map_none]
  get?_eq_none key pos h := by
    rw [rename, get?_renameInto_of_not_range h, LawfulMemoTable.get?_empty]

end MemoTable

/-! ## States -/

namespace State

/-- The second state has the renamed table.  The same cells are filled from the same numbers in
both, and the same numbers are left. -/
structure Renamed (r : Key → Key) (state : State S T) (state' : State S T') : Prop where
  memo : MemoTable.Renamed r state.memo state'.memo
  supply_eq : state'.workshop.supply = state.workshop.supply
  cells_eq : state'.cells = state.cells

variable {state : State S T} {state' : State S T'}

theorem lookup_rename (h : MemoTable.Renamed r state.memo state'.memo) (kind : S.Kind) (key : Key)
    (pos : Nat) :
    Stored.Renamed r Eq (state.lookup kind key pos) (state'.lookup kind (r key) pos) := by
  unfold lookup
  rw [h.get?_rename]
  cases MemoTable.get? state.memo (key, pos) with
  | none => exact .none
  | some entry =>
      simp only [Option.map_some, Option.bind_some, Entry.outcome?_rename, Option.map_map]
      cases entry.outcome? kind with
      | none => exact .none
      | some o => exact .some ⟨o.renamed_rename r rfl, rfl⟩

theorem memo_store [LawfulMemoTable T] [LawfulMemoTable T'] (hr : Function.Injective r)
    (h : MemoTable.Renamed r state.memo state'.memo) {kind : S.Kind} (key : Key) (pos : Nat)
    (context : Context) {o o' : Outcome (S.Value kind)} (ho : o.Renamed r Eq o') :
    MemoTable.Renamed r (state.store key pos ⟨kind, o, context⟩).memo
      (state'.store (r key) pos ⟨kind, o', context.rename r⟩).memo := by
  obtain rfl := ho.eq_rename id
  exact h.insert hr key pos ⟨kind, o, context⟩

end State

namespace Grammar

variable {G : Grammar S}

omit [MemoTable T] [MemoTable T'] in
/-- The renamed grammar makes the renamed copies, from the same numbers. -/
theorem copy_rename (rule : S.Rule) (workshop : Workshop) :
    (G.rename r).copy rule workshop =
      ((G.copy rule workshop).1.map (Parser.rename r), (G.copy rule workshop).2) := by
  show Build.bind _ _ _ = _
  unfold Build.bind
  rcases G.copy rule workshop with ⟨_ | body, next⟩
  · rfl
  · rfl

/-- A cell gets the renamed copy in the renamed grammar. -/
theorem fill_rename (hsteady : G.Steady) {state : State S T} {state' : State S T'}
    (h : state.Renamed r state') (rule : S.Rule) (cell : Nat) :
    ((G.rename r).fill rule cell state').1 = (G.fill rule cell state).1.map (Parser.rename r) ∧
      (G.fill rule cell state).2.Renamed r ((G.rename r).fill rule cell state').2 := by
  obtain ⟨hmade, hsupply⟩ := hsteady rule state'.workshop state.workshop h.supply_eq
  unfold fill
  rw [h.cells_eq]
  cases state.cells.lookup cell with
  | some supply => exact ⟨congrArg Prod.fst (copy_rename rule _), h⟩
  | none =>
      simp only [copy_rename, hmade]
      rcases hcopy : G.copy rule state.workshop with ⟨_ | body, workshop⟩
      · rw [hcopy] at hsupply
        exact ⟨rfl, h.memo, hsupply, rfl⟩
      · rw [hcopy] at hsupply
        refine ⟨rfl, h.memo, hsupply, ?_⟩
        simp only [Except.map, h.supply_eq]

end Grammar

/-! ## Runs -/

variable [LawfulMemoTable T] [LawfulMemoTable T']

/-- The renamed grammar does the same at the same positions under the new keys. -/
def Translation.renaming {G : Grammar S} (hr : Function.Injective r) (hsteady : G.Steady)
    (input : Input S.Token) : Translation G (G.rename r) input input T T' where
  rename := r
  injective := hr
  places := Eq
  alike := .refl input
  states := State.Renamed r
  keys _ := True
  lookup kind hs _ hplace := by
    obtain rfl := hplace
    exact State.lookup_rename hs.memo kind _ _
  store context hs _ hplace ho := by
    obtain rfl := hplace
    exact ⟨State.memo_store hr hs.memo _ _ context ho, hs.supply_eq, hs.cells_eq⟩
  note hs _ := ⟨hs.memo, hs.supply_eq, hs.cells_eq⟩
  define_eq _ := rfl
  cells _ := True
  built := Grammar.anyCopy
  copies _ _ hfill := by
    obtain ⟨⟨workshop, hcopy⟩, -⟩ := Grammar.fill_eq_ok hfill
    exact ⟨workshop, trivial, hcopy⟩
  fill rule cell hs _ := Grammar.fill_rename hsteady hs rule cell

/-- Where the keys are renamed, the run comes to the renamed outcome and to the renamed table. -/
theorem Grammar.run_rename {G : Grammar S} (hr : Function.Injective r) (hsteady : G.Steady)
    {p : Parser S α} (hp : G.Built Parser.Offered p) (input : Input S.Token) (fuel pos : Nat)
    (ctx : Context) {state : State S T} {state' : State S T'} (hs : state.Renamed r state') :
    (G.run input fuel p pos ctx state).Rel (fun o o' => o' = o.rename r) (State.Renamed r)
      ((G.rename r).run input fuel (p.rename r) pos (ctx.rename r) state') := by
  have hrun := Grammar.run_translates (C := .renaming hr hsteady input)
    (fun _ q hq => Parser.Keyed.admits ⟨hp q hq, fun _ _ => trivial⟩ fun _ => trivial) .itself fuel
    ctx (rfl : pos = pos) hs
  exact hrun.mono (fun o o' ho => ho.eq_rename id) fun _ _ h => h

end LeftRec
