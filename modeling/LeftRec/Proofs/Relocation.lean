import LeftRec.Proofs.Companions

/-!
# Relocation — the same run on another input

If a function says where in one input the same remains as at a position of another one, then runs on
the two inputs from an empty table are the same but for their positions, which the function maps.
The inputs may have other tokens before and tokens of other widths.
-/

namespace LeftRec

variable {S : Signature} {T : Type → Type} {α : Type}

/-! ## Outcomes and entries elsewhere -/

/-- The same outcome at the mapped position. -/
def Outcome.relocate (f : Nat → Nat) : Outcome α → Outcome α
  | .success s => .success { s with pos := f s.pos }
  | .failure e => .failure { e with pos := f e.pos }

/-- The same entry with its outcome at the mapped position. -/
def Entry.relocate (f : Nat → Nat) (entry : Entry S) : Entry S :=
  { entry with outcome := entry.outcome.relocate f }

/-- The same entry but for the position of its outcome. -/
inductive Entry.Rel (places : Nat → Nat → Prop) : Entry S → Entry S → Prop
  | intro {kind : S.Kind} {o o' : Outcome (S.Value kind)} (context : Context) :
      o.Rel places o' →
        Rel places { kind, outcome := o, context } { kind, outcome := o', context }

variable {f : Nat → Nat} {places : Nat → Nat → Prop}

theorem Outcome.Rel.eq_relocate {o o' : Outcome α} (h : o.Rel places o')
    (hf : ∀ i j, places i j → i = f j) : o = o'.relocate f := by
  cases h with
  | success hplace => rw [hf _ _ hplace]; rfl
  | failure hplace => rw [hf _ _ hplace]; rfl

theorem Entry.Rel.eq_relocate {entry entry' : Entry S} (h : entry.Rel places entry')
    (hf : ∀ i j, places i j → i = f j) : entry = entry'.relocate f := by
  cases h with
  | intro context ho => rw [ho.eq_relocate hf]; rfl

theorem Entry.Rel.outcome? {entry entry' : Entry S} (h : entry.Rel places entry') (kind : S.Kind) :
    Stored.Rel places ((entry.outcome? kind).map (·, entry.context))
      ((entry'.outcome? kind).map (·, entry'.context)) := by
  cases h with
  | @intro own _ _ context ho =>
      unfold Entry.outcome?
      by_cases hkind : own = kind
      · subst hkind
        simp only [dite_true]
        exact .some ⟨ho, rfl⟩
      · simp only [hkind, dite_false]
        exact .none

/-! ## States on two inputs -/

/-- Both tables have entries only where the same remains in both inputs, and the same ones there but
for positions.  Late copies are built from the same numbers in both states. -/
structure State.Aligned [MemoTable T] (input other : Input S.Token) (state state' : State S T) :
    Prop where
  entries : ∀ {i j}, input.Aligned other i j → ∀ key,
    Option.Rel (Entry.Rel (input.Aligned other)) (MemoTable.get? state.memo (key, i))
      (MemoTable.get? state'.memo (key, j))
  left : ∀ {key i entry}, MemoTable.get? state.memo (key, i) = some entry →
    ∃ j, input.Aligned other i j
  right : ∀ {key j entry}, MemoTable.get? state'.memo (key, j) = some entry →
    ∃ i, input.Aligned other i j
  supply : state.workshop.supply = state'.workshop.supply
  cells : state.cells = state'.cells

variable [MemoTable T] {G : Grammar S} {input other : Input S.Token}

/-- With no entries a state is aligned with itself. -/
theorem State.NoEntries.aligned {state : State S T} (h : state.NoEntries)
    (input other : Input S.Token) : state.Aligned input other state where
  entries _ key := by
    rw [h.get?_eq_none, h.get?_eq_none]
    exact .none
  left hget := by
    rw [h.get?_eq_none] at hget
    cases hget
  right hget := by
    rw [h.get?_eq_none] at hget
    cases hget
  supply := rfl
  cells := rfl

namespace State.Aligned

variable {state state' : State S T}

theorem of_memo {next next' : State S T} (h : state.Aligned input other state')
    (hmemo : next.memo = state.memo) (hmemo' : next'.memo = state'.memo)
    (hsupply : next.workshop.supply = next'.workshop.supply) (hcells : next.cells = next'.cells) :
    next.Aligned input other next' where
  entries hplace key := by
    rw [hmemo, hmemo']
    exact h.entries hplace key
  left hget := h.left (hmemo ▸ hget)
  right hget := h.right (hmemo' ▸ hget)
  supply := hsupply
  cells := hcells

theorem note (h : state.Aligned input other state') (event event' : Option Event) :
    (event.elim state state.note).Aligned input other (event'.elim state' state'.note) := by
  refine h.of_memo (State.memo_elim_note _) (State.memo_elim_note _) ?_ ?_
  · cases event <;> cases event' <;> exact h.supply
  · cases event <;> cases event' <;> exact h.cells

theorem lookup (h : state.Aligned input other state') {i j : Nat}
    (hplace : input.Aligned other i j) (kind : S.Kind) (key : Key) :
    Stored.Rel (input.Aligned other) (state.lookup kind key i) (state'.lookup kind key j) := by
  have hentries := h.entries hplace key
  unfold State.lookup
  generalize MemoTable.get? state.memo (key, i) = found at hentries
  generalize MemoTable.get? state'.memo (key, j) = found' at hentries
  cases hentries with
  | none => exact .none
  | some hentry => exact hentry.outcome? kind

/-- Late copies are built alike, whatever has been noted. -/
theorem fill (h : state.Aligned input other state') (hsteady : G.Steady) (rule : S.Rule)
    (cell : Nat) :
    (G.fill rule cell state).1 = (G.fill rule cell state').1 ∧
      (G.fill rule cell state).2.Aligned input other (G.fill rule cell state').2 := by
  obtain ⟨hmade, hsupply⟩ := hsteady rule state.workshop state'.workshop h.supply
  unfold Grammar.fill
  rw [← h.cells]
  cases state.cells.lookup cell with
  | some supply => exact ⟨rfl, h⟩
  | none =>
      simp only
      revert hmade hsupply
      rcases G.copy rule state.workshop with ⟨_ | body, next⟩ <;>
        rcases G.copy rule state'.workshop with ⟨_ | body', next'⟩
      · rintro ⟨⟩ hsupply
        exact ⟨rfl, h.of_memo rfl rfl hsupply rfl⟩
      · rintro ⟨⟩
      · rintro ⟨⟩
      · rintro ⟨⟩ hsupply
        refine ⟨rfl, h.of_memo rfl rfl hsupply ?_⟩
        simp only [h.supply]

variable [LawfulMemoTable T]

/-- Storing corresponding entries at corresponding positions keeps the tables aligned. -/
theorem store (h : state.Aligned input other state') {i j : Nat}
    (hplace : input.Aligned other i j) (key : Key) {entry entry' : Entry S}
    (hentry : entry.Rel (input.Aligned other) entry') :
    (state.store key i entry).Aligned input other (state'.store key j entry') where
  entries {i' j'} hplace' key' := by
    simp only [State.store, LawfulMemoTable.get?_insert]
    refine ite_rel ?_ (fun _ => .some hentry) fun _ => h.entries hplace' key'
    -- A slot is the new one in both tables or in neither.
    rw [Prod.mk.injEq, Prod.mk.injEq, hplace.eq_iff hplace']
  left hget := by
    simp only [State.store, LawfulMemoTable.get?_insert] at hget
    split at hget
    next hslot => exact ⟨j, (Prod.mk.inj hslot).2 ▸ hplace⟩
    next => exact h.left hget
  right hget := by
    simp only [State.store, LawfulMemoTable.get?_insert] at hget
    split at hget
    next hslot => exact ⟨i, (Prod.mk.inj hslot).2 ▸ hplace⟩
    next => exact h.right hget
  supply := h.supply
  cells := h.cells

end State.Aligned

variable [LawfulMemoTable T]

/-- Runs on two inputs correspond where the same remains in both. -/
def Correspondence.inputs (hsteady : G.Steady) (input other : Input S.Token) :
    Correspondence G input other T T where
  places := input.Aligned other
  states := State.Aligned input other
  keys _ := True
  aligned h := h
  reads h hreads hreads' := h.after hreads hreads'
  lookup kind hs _ hplace := hs.lookup hplace kind _
  store context hs _ hplace ho := hs.store hplace _ (.intro context ho)
  note event event' hs := hs.note event event'
  fill rule cell hs := hs.fill hsteady rule cell

/-! ## Positions as a function -/

/-- The same remains at the images of the valid positions of the other input, and nowhere else. -/
def Input.Images {τ : Type} (input other : Input τ) (f : Nat → Nat) (valid : Nat → Prop) : Prop :=
  ∀ i j, input.Aligned other i j ↔ valid j ∧ i = f j

/-- The first table has the entries of the second one, moved to the images of their positions.  All
entries are at valid positions and at images of such. -/
structure State.Image (f : Nat → Nat) (valid : Nat → Prop) (state state' : State S T) : Prop where
  entry : ∀ key j, valid j → MemoTable.get? state.memo (key, f j) =
    (MemoTable.get? state'.memo (key, j)).map (Entry.relocate f)
  image : ∀ key i entry, MemoTable.get? state.memo (key, i) = some entry → ∃ j, valid j ∧ i = f j
  valid : ∀ key j entry, MemoTable.get? state'.memo (key, j) = some entry → valid j

/-- The same parser is run with the same fuel and under the same context, at the image of a
position. -/
inductive Visit.Image (f : Nat → Nat) : Visit S T → Visit S T → Prop
  | intro {α : Type} (p : Parser S α) (fuel : Nat) (ctx : Context) (j : Nat)
      (state state' : State S T) : Image f ⟨p, fuel, f j, ctx, state⟩ ⟨p, fuel, j, ctx, state'⟩

namespace Input.Images

variable {f : Nat → Nat} {valid : Nat → Prop} {state state' : State S T}

omit [LawfulMemoTable T] in
theorem image (h : input.Images other f valid) (hstate : state.Aligned input other state') :
    state.Image f valid state' where
  entry key j hj := by
    have hentries := hstate.entries ((h (f j) j).2 ⟨hj, rfl⟩) key
    generalize MemoTable.get? state.memo (key, f j) = found at hentries
    generalize MemoTable.get? state'.memo (key, j) = found' at hentries
    cases hentries with
    | none => rfl
    | some hentry => exact congrArg some (hentry.eq_relocate fun i j hplace => ((h i j).1 hplace).2)
  image key i entry hget := by
    obtain ⟨j, hplace⟩ := hstate.left hget
    exact ⟨j, (h i j).1 hplace⟩
  valid key j entry hget := by
    obtain ⟨i, hplace⟩ := hstate.right hget
    exact ((h i j).1 hplace).1

/-- From an empty table, a run at the image of a position is the run at the position, moved. -/
theorem run_relocate (h : input.Images other f valid) (hsteady : G.Steady) {p : Parser S α}
    (hp : G.Built Parser.Offered p) (fuel : Nat) {j : Nat} (hj : valid j) (ctx : Context)
    (hempty : state.NoEntries) :
    (G.run input fuel p (f j) ctx state).Rel (fun o o' => o = o'.relocate f ∧ valid o'.pos)
      (State.Image f valid) (G.run other fuel p j ctx state) := by
  let C : Correspondence G input other T T := .inputs hsteady input other
  have hkeyed : G.Built (Parser.Keyed C.keys) p := fun _ q hq => ⟨hp q hq, fun _ _ => trivial⟩
  have hrun := Grammar.run_parallel hkeyed fuel ctx ((h (f j) j).2 ⟨hj, rfl⟩)
    (hempty.aligned input other)
  refine hrun.mono (fun o o' ho => ⟨?_, ?_⟩) fun next next' hnext => h.image hnext
  · exact ho.eq_relocate fun i j hplace => ((h i j).1 hplace).2
  · exact ((h _ _).1 ho.pos).1

/-- Every visit of either run has a companion in the other one, which goes the same way. -/
theorem visits_relocate (h : input.Images other f valid) (hsteady : G.Steady) {p : Parser S α}
    (hp : G.Built Parser.Offered p) (fuel : Nat) {j : Nat} (hj : valid j) (ctx : Context)
    (hempty : state.NoEntries) :
    (∀ v, G.Visits input ⟨p, fuel, f j, ctx, state⟩ v →
      ∃ w, G.Visits other ⟨p, fuel, j, ctx, state⟩ w ∧ v.Image f w ∧
        ∀ way, G.Goes input way v ↔ G.Goes other way w) ∧
    ∀ w, G.Visits other ⟨p, fuel, j, ctx, state⟩ w →
      ∃ v, G.Visits input ⟨p, fuel, f j, ctx, state⟩ v ∧ v.Image f w ∧
        ∀ way, G.Goes input way v ↔ G.Goes other way w := by
  let C : Correspondence G input other T T := .inputs hsteady input other
  have hkeyed : G.Built (Parser.Keyed C.keys) p := fun _ q hq => ⟨hp q hq, fun _ _ => trivial⟩
  have hpair : Visit.Parallel C ⟨p, fuel, f j, ctx, state⟩ ⟨p, fuel, j, ctx, state⟩ :=
    .intro p fuel ctx ((h (f j) j).2 ⟨hj, rfl⟩) (hempty.aligned input other)
  have himage {v w : Visit S T} (hvw : v.Parallel C w) : v.Image f w := by
    obtain @⟨_, q, less, under, i, k, _, _, hplace, _⟩ := hvw
    obtain rfl := ((h i k).1 hplace).2
    exact .intro q less under k _ _
  refine ⟨fun v hv => ?_, fun w hw => ?_⟩
  · obtain ⟨w, hw, hvw⟩ := Grammar.Visits.parallel hv hpair hkeyed
    exact ⟨w, hw, himage hvw, fun way =>
      Grammar.goes_iff hvw (hkeyed.of_uses (Grammar.Visits.uses hv))⟩
  · obtain ⟨v, hv, hwv⟩ := Grammar.Visits.parallel hw hpair.symm hkeyed
    exact ⟨v, hv, himage hwv.symm, fun way =>
      (Grammar.goes_iff hwv (hkeyed.of_uses (Grammar.Visits.uses hw))).symm⟩

end Input.Images

end LeftRec
