import Mathlib.Data.List.Sort
import LeftRec.Memo.Hashed
import LeftRec.Memo.Ordered
import LeftRec.Proofs.Agreement
import LeftRec.Proofs.Translation
import LeftRec.Session

/-!
# Interchange — any table will do

All that a parse asks of its memo table is what it holds for a rule at a position.  So tables that
are finite maps may be exchanged for one another, and neither a run nor a whole session can tell
which one it has.  A whole parse begins with an empty table, so it cannot tell either what has been
done with the table before.
-/

namespace LeftRec

universe u

variable {S : Signature} {T T' : Type → Type} {α β : Type} [MemoTable T] [MemoTable T']

/-! ## Tables with the same entries -/

namespace MemoTable

variable [LawfulMemoTable T] [LawfulMemoTable T'] {ε : Type} {table : T ε} {table' : T' ε}

theorem slots_perm (h : ∀ slot, get? table' slot = get? table slot) :
    (slots table').Perm (slots table) := by
  refine (List.perm_ext_iff_of_nodup (LawfulMemoTable.nodup_slots _)
    (LawfulMemoTable.nodup_slots _)).2 fun slot => ?_
  rw [LawfulMemoTable.mem_slots, LawfulMemoTable.mem_slots, h]

theorem size_eq (h : ∀ slot, get? table' slot = get? table slot) : size table' = size table := by
  rw [← LawfulMemoTable.length_slots, ← LawfulMemoTable.length_slots]
  exact (slots_perm h).length_eq

/-- Slots in slot order have but one arrangement. -/
theorem sorted_slots_eq {slots slots' : List Slot} (h : slots'.Perm slots) :
    (slots'.mergeSort fun a b => (slotOrder a b).isLE) =
      slots.mergeSort fun a b => (slotOrder a b).isLE := by
  have htrans (a b c : Slot) : (slotOrder a b).isLE → (slotOrder b c).isLE →
      (slotOrder a c).isLE :=
    Std.TransCmp.isLE_trans
  have htotal (a b : Slot) : ((slotOrder a b).isLE || (slotOrder b a).isLE) = true := by
    have hswap : slotOrder b a = (slotOrder a b).swap := Std.OrientedCmp.eq_swap
    rw [hswap]
    cases slotOrder a b <;> rfl
  have hanti (a b : Slot) (hab : (slotOrder a b).isLE) (hba : (slotOrder b a).isLE) : a = b :=
    Std.LawfulEqCmp.eq_of_compare (Std.OrientedCmp.isLE_antisymm hab hba)
  refine List.Perm.eq_of_pairwise (fun a b _ _ => hanti a b)
    (List.pairwise_mergeSort htrans htotal _) (List.pairwise_mergeSort htrans htotal _) ?_
  exact (List.mergeSort_perm _ _).trans (h.trans (List.mergeSort_perm _ _).symm)

theorem toList_eq (h : ∀ slot, get? table' slot = get? table slot) :
    toList table' = toList table := by
  unfold toList
  rw [sorted_slots_eq (slots_perm h), funext h]

end MemoTable

/-! ## Runs -/

/-- The same state but for its table. -/
def State.withMemo (state : State S T) (memo : T' (Entry S)) : State S T' :=
  { memo, workshop := state.workshop, cells := state.cells, counts := state.counts }

/-- The two states agree in everything but their tables. -/
theorem State.agree_withMemo (state : State S T) (memo : T' (Entry S)) :
    state.Agree (fun _ => False) (state.withMemo memo) :=
  ⟨fun _ h => h.elim, rfl, rfl, rfl⟩

/-- The two states have the same entries, and the same of everything besides. -/
abbrev State.Same (state : State S T) (state' : State S T') : Prop :=
  state.Agree (fun _ => True) state'

section Runs

variable [LawfulMemoTable T] [LawfulMemoTable T']

/-- Two runs that differ in their tables only, where both tables hold the same. -/
def Translation.exchange (G : Grammar S) (input : Input S.Token) :
    Translation G G input input T T' where
  rename := id
  injective := Function.injective_id
  places := Eq
  alike := .refl input
  states := State.Same
  keys _ := True
  lookup kind hs _ hplace := by
    obtain rfl := hplace
    rw [id, hs.lookup_eq trivial]
    exact Stored.renamed_self fun _ _ _ => rfl
  store context hs _ hplace ho := by
    obtain rfl := hplace
    obtain rfl := (ho.eq_rename id).trans (Outcome.rename_id _)
    rw [Context.rename_id]
    exact hs.store _ _ _
  note hs hevent := by
    obtain rfl := hevent.eq id
    exact hs.note _
  define_eq := G.define_rename_id
  cells _ := True
  built := Grammar.anyCopy
  copies _ _ hfill := by
    obtain ⟨⟨workshop, hcopy⟩, -⟩ := Grammar.fill_eq_ok hfill
    exact ⟨workshop, trivial, hcopy⟩
  fill rule cell hs _ :=
    ⟨(hs.fill rule cell).1.trans (Parser.exceptMap_rename_id _).symm, (hs.fill rule cell).2⟩

/-- A program over the table is answered the same. -/
theorem Run.access_same (a : Access S α) :
    Eval.Rel Eq State.Same (Run.access a : Eval (State S T) α)
      (Run.access a : Eval (State S T') α) := by
  induction a with
  | done result => exact Eval.rel_ofExcept result
  | entry key pos next ih =>
      intro state state' hs
      simp only [Run.access, hs.get?_eq (key, pos) trivial]
      exact ih _ hs
  | insert key pos entry next ih =>
      intro state state' hs
      exact ih (hs.store key pos entry)
  | clear next ih =>
      intro state state' hs
      exact ih (hs.clear _)
  | len next ih =>
      intro state state' hs
      simp only [Run.access, MemoTable.size_eq fun slot => hs.get?_eq slot trivial]
      exact ih _ hs

/-- Every parser is admitted, those included that are written by hand or count their runs. -/
theorem Translation.exchange_admits {G : Grammar S} {input : Input S.Token} (p : Parser S α) :
    (exchange G input : Translation G G input input T T').Admits p := by
  cases p with
  | custom f =>
      intro i j ctx hplace state state' hs
      obtain rfl : i = j := hplace
      simp only [exchange, Context.rename_id]
      refine (Run.access_same (f input i ctx) hs).mono (fun o o' ho => ?_) fun _ _ h => h
      exact ho ▸ o.renamed_self rfl
  | count what p => exact fun hs => hs.count what
  | unit | fail | literal | token | find | all | eof | scan | tryMap | zipWith | bind | alt
  | label | commit | look | row | many | memo | ref | delay => trivial

/-- Runs of any parser do the same with tables that hold the same. -/
theorem Grammar.run_same (G : Grammar S) (input : Input S.Token) (fuel : Nat) (p : Parser S α)
    (pos : Nat) (ctx : Context) :
    Eval.Rel Eq State.Same (G.run input fuel p pos ctx : Eval (State S T) _)
      (G.run input fuel p pos ctx : Eval (State S T') _) := by
  intro state state' hs
  have hrun := Grammar.run_translates (C := .exchange G input)
    (fun _ q _ => Translation.exchange_admits q) (.itself (p := p)) fuel ctx (rfl : pos = pos) hs
  simp only [Translation.exchange, Parser.rename_id, Context.rename_id] at hrun
  exact hrun.mono (fun o o' ho => ((ho.eq_rename id).trans (Outcome.rename_id o)).symm)
    fun _ _ h => h

/-- A whole parse does the same in states that differ in their tables only, whatever these hold. -/
theorem Grammar.parse_same (G : Grammar S) (fuel : Nat) (input : Input S.Token)
    (consumeAll : Bool) (p : Parser S α) {region : Slot → Prop} :
    ∀ ⦃state : State S T⦄ ⦃state' : State S T'⦄, state.Agree region state' →
      (G.parse fuel input consumeAll p state).Rel Eq State.Same
        (G.parse fuel input consumeAll p state') := by
  intro state state' hs
  refine Grammar.parse_rel (G.run_same input fuel _ 0 ∅) ?_ (hs.clear _)
  intro o o' next next' ho hnext
  rw [ho, MemoTable.size_eq fun slot => hnext.get?_eq slot trivial]
  exact hnext.note _

omit [LawfulMemoTable T] [LawfulMemoTable T'] in
theorem Eval.building_same {γ : Type u} (make : Build γ) {next : γ → Eval (State S T) β}
    {next' : γ → Eval (State S T') β}
    (h : ∀ made, Eval.Rel Eq State.Same (next made) (next' made)) :
    Eval.Rel Eq State.Same (Eval.building make next) (Eval.building make next') := by
  intro state state' hs
  unfold Eval.building
  rw [hs.workshop_eq]
  rcases make state.workshop with ⟨_ | made, workshop⟩
  · exact .stopped ⟨hs.get?_eq, rfl, hs.cells_eq, hs.counts_eq⟩
  · exact h made ⟨hs.get?_eq, rfl, hs.cells_eq, hs.counts_eq⟩

end Runs

/-! ## Sessions -/

namespace Session

/-- The two sessions have the same settings, entries of the same number and the same for every rule
at every position, and the same of everything besides. -/
structure Same (session : Session S T) (session' : Session S T') : Prop where
  input_eq : session'.input = session.input
  consumeAll_eq : session'.consumeAll = session.consumeAll
  size_eq : MemoTable.size session'.memo = MemoTable.size session.memo
  state : session.state.Same session'.state

theorem Same.get?_eq {session : Session S T} {session' : Session S T'} (h : session.Same session')
    (slot : Slot) : MemoTable.get? session'.memo slot = MemoTable.get? session.memo slot :=
  h.state.get?_eq slot trivial

variable [LawfulMemoTable T] [LawfulMemoTable T']

/-- Sessions with the same settings and the same entries are the same, since equal maps have equal
sizes. -/
theorem Same.of_state {session : Session S T} {session' : Session S T'}
    (hinput : session'.input = session.input) (hflag : session'.consumeAll = session.consumeAll)
    (hs : session.state.Same session'.state) : session.Same session' :=
  ⟨hinput, hflag, MemoTable.size_eq fun slot => hs.get?_eq slot trivial, hs⟩

theorem onState_same {x : Eval (State S T) β} {y : Eval (State S T') β}
    (h : Eval.Rel Eq State.Same x y) : Eval.Rel Eq Same (onState x) (onState y) := by
  intro session session' hs
  have hstate := h hs.state
  unfold onState
  generalize x session.state = r at hstate
  generalize y session'.state = r' at hstate
  cases hstate with
  | exhausted => exact .exhausted
  | stopped hnext => exact .stopped (.of_state hs.input_eq hs.consumeAll_eq hnext)
  | done hab hnext => exact .done hab (.of_state hs.input_eq hs.consumeAll_eq hnext)

variable {π : Type} (G : Grammar S) (fuel : Nat) (make : π → Build (Parser S α))

/-- Every step answers the same in both sessions, and leaves them the same. -/
theorem perform_same (step : Step S π) :
    Eval.Rel Eq Same (perform G fuel make step : Eval (Session S T) _)
      (perform G fuel make step : Eval (Session S T') _) := by
  cases step with
  | consumeAll flag =>
      refine (Eval.rel_change fun _ _ hs => ?_).bind fun _ _ _ => Eval.rel_pure rfl
      exact .of_state hs.input_eq rfl hs.state
  | input input =>
      refine (Eval.rel_change fun _ _ hs => ?_).bind fun _ _ _ => Eval.rel_pure rfl
      exact .of_state rfl hs.consumeAll_eq hs.state
  | run p =>
      refine (Eval.rel_read fun _ _ hs => hs.input_eq.symm).bind fun input _ hinput => ?_
      obtain rfl := hinput
      refine (Eval.rel_read fun _ _ hs => hs.consumeAll_eq.symm).bind fun flag _ hflag => ?_
      obtain rfl := hflag
      refine (onState_same (Eval.building_same _ fun p => ?_)).map fun o _ ho => congrArg _ ho
      exact G.parse_same fuel input flag p
  | runAt p pos ctx =>
      refine (Eval.rel_read fun _ _ hs => hs.input_eq.symm).bind fun input _ hinput => ?_
      obtain rfl := hinput
      refine (onState_same (Eval.building_same _ fun p => ?_)).map fun o _ ho => congrArg _ ho
      exact G.run_same input fuel p pos ctx
  | store key pos entry =>
      refine (onState_same (Eval.rel_change fun _ _ hs => ?_)).bind fun _ _ _ => Eval.rel_pure rfl
      exact hs.store key pos entry
  | entry key pos => exact Eval.rel_read fun _ _ hs => by rw [hs.get?_eq]
  | describeEntry key pos => exact Eval.rel_read fun _ _ hs => by rw [hs.get?_eq]
  | describe => exact Eval.rel_read fun _ _ hs => by rw [hs.size_eq, hs.input_eq]
  | isEmpty => exact Eval.rel_read fun _ _ hs => by rw [hs.size_eq]
  | dump => exact Eval.rel_read fun _ _ hs => by rw [MemoTable.toList_eq hs.get?_eq]
  | clear =>
      refine (onState_same (Eval.rel_change fun _ _ hs => ?_)).bind fun _ _ _ => Eval.rel_pure rfl
      exact hs.clear _

theorem performAll_same (steps : List (Step S π)) {session : Session S T}
    {session' : Session S T'} (hs : session.Same session') :
    List.Forall₂ (Result.Rel Eq Same) (performAll G fuel make steps session)
      (performAll G fuel make steps session') := by
  induction steps generalizing session session' with
  | nil => exact .nil
  | cons step rest ih =>
      have hresult := perform_same G fuel make step hs
      refine .cons hresult (ih ?_)
      -- The next step begins where this one left its session.
      generalize perform G fuel make step session = r at hresult
      generalize perform G fuel make step session' = r' at hresult
      cases hresult with
      | exhausted => exact hs
      | stopped hnext => exact hnext
      | done _ hnext => exact hnext

end Session

/-- Which table is used and what it held before cannot be observed.  From new tables, an ordered one
and a hashed one with room for any number of entries, a session of any steps has the same results at
each step and the same number of entries and the same entry in every slot after it.  A whole parse
comes to the outcome and to the entries that it comes to with a new table of either type. -/
theorem Grammar.table_unobservable {π : Type} (G : Grammar S) (fuel : Nat)
    (make : π → Build (Parser S α)) (state : State S OrderedTable) :
    (∀ (steps : List (Session.Step S π)) (capacity : Nat) (input : Input S.Token)
        (consumeAll : Bool),
      let ordered : Session S OrderedTable :=
        ⟨input, consumeAll, state.withMemo (MemoTable.empty : OrderedTable (Entry S))⟩
      let hashed : Session S HashedTable :=
        ⟨input, consumeAll, state.withMemo (HashedTable.withCapacity capacity)⟩
      List.Forall₂ (Result.Rel Eq Session.Same) (Session.performAll G fuel make steps ordered)
        (Session.performAll G fuel make steps hashed)) ∧
    ∀ (input : Input S.Token) (consumeAll : Bool) (p : Parser S α) (table : HashedTable (Entry S)),
      let ordered : Result (State S OrderedTable) (Outcome α) := G.parse fuel input consumeAll p
        (state.withMemo (MemoTable.empty : OrderedTable (Entry S)))
      let hashed : Result (State S HashedTable) (Outcome α) := G.parse fuel input consumeAll p
        (state.withMemo (MemoTable.empty : HashedTable (Entry S)))
      (G.parse fuel input consumeAll p state).Rel Eq State.Same ordered ∧
        (G.parse fuel input consumeAll p (state.withMemo table)).Rel Eq State.Same hashed ∧
        ordered.Rel Eq State.Same hashed := by
  constructor
  · intro steps capacity input consumeAll ordered hashed
    refine Session.performAll_same G fuel make steps (.of_state rfl rfl ⟨fun slot _ => ?_, rfl, rfl,
      rfl⟩)
    have hempty : MemoTable.get? (HashedTable.withCapacity capacity : HashedTable (Entry S)) slot =
        none := Std.HashMap.getElem?_emptyWithCapacity
    exact hempty.trans (LawfulMemoTable.get?_empty slot).symm
  · intro input consumeAll p table ordered hashed
    refine ⟨?_, ?_, ?_⟩
    · exact G.parse_same fuel input consumeAll p (state.agree_withMemo _)
    · exact G.parse_same fuel input consumeAll p ((state.withMemo table).agree_withMemo _)
    · exact G.parse_same fuel input consumeAll p ((state.withMemo _).agree_withMemo _)

end LeftRec
