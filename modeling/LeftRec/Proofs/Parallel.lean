import LeftRec.Proofs.Alignment
import LeftRec.Proofs.Table
import LeftRec.Proofs.Translation

/-!
# Parallel runs — two runs that do the same at corresponding positions

Two runs of one parser may read different inputs and use different tables.  A correspondence says
which positions and which states of the two belong together.  If the inputs agree from corresponding
positions on, and if what is stored and found corresponds, then the runs do: both use up their fuel,
both are stopped by one fault, or both come to the same outcome, but for the position.

A correspondence is a translation that leaves the keys as they are.
-/

namespace LeftRec

variable {S : Signature} {T T' : Type → Type} {α β γ δ : Type}

/-! ## Outcomes -/

/-- The same outcome but for its position, where the positions correspond. -/
inductive Outcome.Rel (places : Nat → Nat → Prop) : Outcome α → Outcome α → Prop
  | success {value : α} {used : Used} {i j : Nat} : places i j →
      Rel places (.success { value, pos := i, used }) (.success { value, pos := j, used })
  | failure {reason : Reason} {used : Used} {i j : Nat} : places i j →
      Rel places (.failure { reason, pos := i, used }) (.failure { reason, pos := j, used })

/-- The same stored outcome but for its position, under the same context. -/
def Stored.Rel (places : Nat → Nat → Prop) :
    Option (Outcome α × Context) → Option (Outcome α × Context) → Prop :=
  Option.Rel fun stored stored' => stored.1.Rel places stored'.1 ∧ stored.2 = stored'.2

section Keys

variable {places : Nat → Nat → Prop}

namespace Outcome

variable {o o' : Outcome α}

theorem Rel.pos (h : o.Rel places o') : places o.pos o'.pos := by
  cases h with
  | success hplace | failure hplace => exact hplace

theorem Rel.flip (h : o.Rel places o') : o'.Rel (Function.swap places) o := by
  cases h with
  | success hplace => exact .success hplace
  | failure hplace => exact .failure hplace

/-- Outcomes that differ in positions only are those that correspond when no key changes. -/
theorem renamed_id_iff : o.Renamed id places o' ↔ o.Rel places o' := by
  constructor
  · intro h
    cases h with
    | success hplace =>
        rw [Used.rename_id]
        exact .success hplace
    | failure hplace =>
        rw [Used.rename_id]
        exact .failure hplace
  · intro h
    cases h with
    | @success value used i j hplace =>
        have hsame : (success ⟨value, i, used⟩).Renamed id places
            (success ⟨value, j, used.rename id⟩) := .success hplace
        rwa [Used.rename_id] at hsame
    | @failure reason used i j hplace =>
        have hsame : (failure ⟨reason, i, used⟩ : Outcome α).Renamed id places
            (failure ⟨reason, j, used.rename id⟩) := .failure hplace
        rwa [Used.rename_id] at hsame

end Outcome

theorem Stored.renamed_id_iff {stored stored' : Option (Outcome α × Context)} :
    Stored.Renamed id places stored stored' ↔ Stored.Rel places stored stored' := by
  unfold Stored.Renamed Stored.Rel
  simp only [Outcome.renamed_id_iff, Context.rename_id, eq_comm]

end Keys

/-! ## Correspondences -/

/-- How two runs correspond: which of their positions and states belong together, and the keys under
which they may store. -/
structure Correspondence (G : Grammar S) (input other : Input S.Token) (T T' : Type → Type)
    [MemoTable T] [MemoTable T'] where
  places : Nat → Nat → Prop
  states : State S T → State S T' → Prop
  keys : Key → Prop
  aligned : ∀ {i j}, places i j → input.Aligned other i j
  /-- Reading the same leads to corresponding positions. -/
  reads : ∀ {i j word i' j'}, places i j → input.Reads i word i' → other.Reads j word j' →
    places i' j'
  lookup : ∀ {state state' key i j} (kind), states state state' → keys key → places i j →
    Stored.Rel places (state.lookup kind key i) (state'.lookup kind key j)
  store : ∀ {state state' key i j kind} {o o' : Outcome (S.Value kind)} (context : Context),
    states state state' → keys key → places i j → o.Rel places o' →
      states (state.store key i { kind, outcome := o, context })
        (state'.store key j { kind, outcome := o', context })
  /-- What is noted does not matter. -/
  note : ∀ {state state'} (event event' : Option Event), states state state' →
    states (event.elim state state.note) (event'.elim state' state'.note)
  /-- Late copies of rules are the same. -/
  fill : ∀ {state state'} (rule cell), states state state' →
    (G.fill rule cell state).1 = (G.fill rule cell state').1 ∧
      states (G.fill rule cell state).2 (G.fill rule cell state').2

namespace Correspondence

variable [MemoTable T] [MemoTable T'] {G : Grammar S} {input other : Input S.Token}
variable {C : Correspondence G input other T T'} {i j i' j' : Nat}

theorem eq_iff (C : Correspondence G input other T T') (h : C.places i j) (h' : C.places i' j') :
    i = i' ↔ j = j' :=
  (C.aligned h).eq_iff (C.aligned h')

theorem remaining_eq (C : Correspondence G input other T T') (h : C.places i j) :
    input.remaining i = other.remaining j :=
  (C.aligned h).remaining_eq

theorem carried_eq (C : Correspondence G input other T T') (h : C.places i j)
    (h' : C.places i' j') (ctx : Context) : ctx.carried i i' = ctx.carried j j' := by
  unfold Context.carried
  simp only [C.eq_iff h h']

/-- Both inputs end where the same is read up to the end. -/
theorem ends (C : Correspondence G input other T T') (h : C.places i j) :
    C.places input.extent other.extent := by
  have hrest := Input.reads_rest (C.aligned h).right
  rw [← (C.aligned h).rest_eq] at hrest
  exact C.reads h (Input.reads_rest (C.aligned h).left) hrest

theorem alike (C : Correspondence G input other T T') : input.Alike other C.places where
  rest?_eq hplace := by
    rw [(C.aligned hplace).left.rest?_eq, (C.aligned hplace).right.rest?_eq,
      (C.aligned hplace).rest_eq]
  slice_eq hplace := (C.aligned hplace).slice_eq
  lt_iff hplace hplace' := (C.aligned hplace).lt_iff (C.aligned hplace')
  extent_le_iff hplace := (C.aligned hplace).extent_le_iff
  ends hplace := by
    rw [(C.aligned hplace).max_extent, (C.aligned hplace).symm.max_extent]
    exact C.ends hplace
  step hplace hrest := by
    have hreads := Input.reads_of_rest hrest
    exact C.reads hplace hreads ((C.aligned hplace).reads hreads)

/-- The translation that changes no key. -/
def translation (C : Correspondence G input other T T') : Translation G G input other T T' where
  rename := id
  injective := Function.injective_id
  places := C.places
  alike := C.alike
  states := C.states
  keys := C.keys
  lookup kind hs hkey hplace := Stored.renamed_id_iff.2 (C.lookup kind hs hkey hplace)
  store context hs hkey hplace ho := by
    rw [Context.rename_id]
    exact C.store context hs hkey hplace (Outcome.renamed_id_iff.1 ho)
  note {_ _ event event'} hs _ := C.note (some event) (some event') hs
  define_eq := G.define_rename_id
  cells _ := True
  built := Grammar.anyCopy
  copies _ _ hfill := by
    obtain ⟨⟨workshop, hcopy⟩, -⟩ := Grammar.fill_eq_ok hfill
    exact ⟨workshop, trivial, hcopy⟩
  fill rule cell hs _ := by
    obtain ⟨hmade, hnext⟩ := C.fill rule cell hs
    exact ⟨hmade.symm.trans (Parser.exceptMap_rename_id _).symm, hnext⟩

end Correspondence

/-! ## Runs -/

namespace Run

variable [MemoTable T] [MemoTable T'] {G : Grammar S} {input other : Input S.Token}

/-- From corresponding positions, under one context and from corresponding states, both runs come to
corresponding results. -/
def Parallel (C : Correspondence G input other T T') (p : Run S T α) (q : Run S T' α) : Prop :=
  ∀ ⦃i j⦄ (ctx : Context), C.places i j →
    Eval.Rel (Outcome.Rel C.places) C.states (p i ctx) (q j ctx)

variable {C : Correspondence G input other T T'}

/-- The same success is preferred to corresponding outcomes, but for its position. -/
theorem rel_preferred (parity : Parity) (remaining : Nat) (ctx : Context) {fresh fresh' : Outcome α}
    {stored stored' : Option (Outcome α × Context)} (hfresh : fresh.Rel C.places fresh')
    (hstored : Stored.Rel C.places stored stored') :
    Option.Rel (fun s s' => (Outcome.success s).Rel C.places (.success s'))
      (preferred parity remaining ctx fresh stored)
      (preferred parity remaining ctx fresh' stored') := by
  have h := renamed_preferred (C := C.translation) parity remaining ctx
    (Outcome.renamed_id_iff.2 hfresh) (Stored.renamed_id_iff.2 hstored)
  simp only [Correspondence.translation, Outcome.renamed_id_iff, Context.rename_id] at h
  exact h

end Run

/-! ## Parsers and grammars -/

variable [MemoTable T] [MemoTable T'] {G : Grammar S} {input other : Input S.Token}
variable {C : Correspondence G input other T T'}

/-- Runs of one parser correspond, wherever they begin alike. -/
theorem Grammar.run_parallel {p : Parser S α} (hp : G.Built (Parser.Keyed C.keys) p) (fuel : Nat) :
    Run.Parallel C (G.run input fuel p) (G.run other fuel p) := by
  have h := Grammar.run_translates (C := C.translation)
    (fun _ q hq => (hp q hq).admits fun _ => trivial) .itself fuel
  intro i j ctx hplace state state' hs
  have hrun := h ctx hplace hs
  simp only [Correspondence.translation, Parser.rename_id, Context.rename_id] at hrun
  exact hrun.mono (fun _ _ => Outcome.renamed_id_iff.1) fun _ _ => id

end LeftRec
