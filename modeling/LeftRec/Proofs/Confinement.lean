import Mathlib.Logic.Relation
import LeftRec.Memo.Hashed
import LeftRec.Memo.Ordered
import LeftRec.Proofs.Agreement
import LeftRec.Proofs.Binding
import LeftRec.Proofs.Provenance
import LeftRec.Proofs.Translation

/-!
# Confinement — a run keeps to the entries of its own rules

A parser's own part of the memo table are the entries of the memoized rules that it uses, from the
position on at which it is run.  A run reads no other entries and writes no other entries.  So it
does the same with any table that has the same entries there, and leaves all the rest as it was.
-/

namespace LeftRec

variable {S : Signature} {T T' : Type → Type} {α : Type}

/-! ## The rules of a parser -/

/-- The workshop that a cell's copy is made from in a state. -/
def State.source (state : State S T) (cell : Nat) : Workshop :=
  match state.cells.lookup cell with
  | some supply => { supply, log := [] }
  | none => state.workshop

/-- The slots of some rules from a position on. -/
def Ahead (keys : Key → Prop) (pos : Nat) (slot : Slot) : Prop :=
  keys slot.1 ∧ pos ≤ slot.2

namespace Grammar

theorem copy_source {G : Grammar S} {rule : S.Rule} {cell : Nat} {state next : State S T}
    {body : Parser S (S.Value (S.kind rule))} (h : G.fill rule cell state = (.ok body, next)) :
    (G.copy rule (state.source cell)).1 = .ok body := by
  unfold fill at h
  unfold State.source
  generalize state.cells.lookup cell = filled at h ⊢
  cases filled with
  | some supply => exact (Prod.mk.inj h).1
  | none =>
      rcases hcopy : G.copy rule state.workshop with ⟨_ | p, workshop⟩
      · simp only [hcopy] at h
        cases h
      · simp only [hcopy] at h ⊢
        exact (Prod.mk.inj h).1

variable [MemoTable T]

/-- What a run may do to a state. -/
inductive Changes (G : Grammar S) : State S T → State S T → Prop
  | note (state : State S T) (event : Event) : Changes G state (state.note event)
  | count (state : State S T) (what : String) : Changes G state (state.count what)
  | store (state : State S T) (key : Key) (pos : Nat) (entry : Entry S) :
      Changes G state (state.store key pos entry)
  | fill (state : State S T) (rule : S.Rule) (cell : Nat) :
      Changes G state (G.fill rule cell state).2

/-- In the course of a run from a state, a cell's copy may be made from a workshop. -/
def Sources (G : Grammar S) (state : State S T) (cell : Nat) (workshop : Workshop) : Prop :=
  ∃ later, Relation.ReflTransGen G.Changes state later ∧ later.source cell = workshop

/-- The keys of the memoized rules that a parser may come to in a run from a state. -/
def Reaches (G : Grammar S) (state : State S T) (p : Parser S α) (key : Key) : Prop :=
  ∃ node : MemoNode S, G.Uses (G.Sources state) p node.parser ∧ node.key = key

end Grammar

/-! ## Tables before and after -/

section Tables

variable [MemoTable T] {region : Slot → Prop} {start state : State S T}

/-- Outside of a region every entry is as it was before, and no entry that was present is gone. -/
structure State.Confined (region : Slot → Prop) (before after : State S T) : Prop where
  get?_eq : ∀ slot, ¬ region slot →
    MemoTable.get? after.memo slot = MemoTable.get? before.memo slot
  isSome : ∀ slot, (MemoTable.get? before.memo slot).isSome →
    (MemoTable.get? after.memo slot).isSome

namespace State.Confined

theorem refl (region : Slot → Prop) (state : State S T) : state.Confined region state :=
  ⟨fun _ _ => rfl, fun _ h => h⟩

theorem of_memo (h : start.Confined region state) {next : State S T}
    (hmemo : next.memo = state.memo) : start.Confined region next :=
  ⟨hmemo ▸ h.get?_eq, hmemo ▸ h.isSome⟩

theorem store [LawfulMemoTable T] (h : start.Confined region state) {key : Key} {pos : Nat}
    (hslot : region (key, pos)) (entry : Entry S) :
    start.Confined region (state.store key pos entry) where
  get?_eq slot hout := by
    have hne : (key, pos) ≠ slot := fun heq => hout (heq ▸ hslot)
    rw [State.store, LawfulMemoTable.get?_insert, if_neg hne, h.get?_eq slot hout]
  isSome slot hsome := by
    rw [State.store, LawfulMemoTable.get?_insert]
    split
    · rfl
    · exact h.isSome slot hsome

end State.Confined

end Tables

/-! ## Two runs side by side -/

variable [MemoTable T] [MemoTable T']

/-- Two runs that began in two states have come to two states.  They agree in a region, where all
outcomes lie ahead of a position, and outside of it each one is as it began. -/
structure Confinement (G : Grammar S) (region : Slot → Prop) (pos : Nat) (start : State S T)
    (start' : State S T') (state : State S T) (state' : State S T') : Prop where
  agree : state.Agree region state'
  ahead : ∀ slot entry, region slot → MemoTable.get? state.memo slot = some entry →
    pos ≤ entry.outcome.pos
  left : start.Confined region state
  right : start'.Confined region state'
  changes : Relation.ReflTransGen G.Changes start state

namespace Confinement

variable {G : Grammar S} {region : Slot → Prop} {pos : Nat} {start state : State S T}
variable {start' state' : State S T'}

theorem note (h : Confinement G region pos start start' state state') (event : Event) :
    Confinement G region pos start start' (state.note event) (state'.note event) where
  agree := h.agree.note event
  ahead := h.ahead
  left := h.left.of_memo rfl
  right := h.right.of_memo rfl
  changes := h.changes.tail (.note state event)

theorem fill (h : Confinement G region pos start start' state state') (rule : S.Rule)
    (cell : Nat) :
    Confinement G region pos start start' (G.fill rule cell state).2
      (G.fill rule cell state').2 where
  agree := (h.agree.fill rule cell).2
  ahead := by
    rw [G.fill_memo]
    exact h.ahead
  left := h.left.of_memo (G.fill_memo rule cell state)
  right := h.right.of_memo (G.fill_memo rule cell state')
  changes := h.changes.tail (.fill state rule cell)

theorem store [LawfulMemoTable T] [LawfulMemoTable T']
    (h : Confinement G region pos start start' state state') {key : Key} {there : Nat}
    (hslot : region (key, there)) {entry : Entry S} (hentry : pos ≤ entry.outcome.pos) :
    Confinement G region pos start start' (state.store key there entry)
      (state'.store key there entry) where
  agree := h.agree.store key there entry
  ahead slot other hregion hget := by
    rw [State.store, LawfulMemoTable.get?_insert] at hget
    split at hget
    · obtain rfl := Option.some.inj hget
      exact hentry
    · exact h.ahead slot other hregion hget
  left := h.left.store hslot entry
  right := h.right.store hslot entry
  changes := h.changes.tail (.store state key there entry)

variable [LawfulMemoTable T] [LawfulMemoTable T']

/-- The runs do the same, from the same positions on that are not before the given one. -/
def translation (G : Grammar S) (input : Input S.Token) (keys : Key → Prop) (pos : Nat)
    (start : State S T) (start' : State S T') : Translation G G input input T T' where
  rename := id
  injective := Function.injective_id
  places i j := i = j ∧ pos ≤ i
  alike := .self (fun h => h.1) (fun h hle => ⟨rfl, Nat.le_trans h.2 hle⟩) input
  states := Confinement G (Ahead keys pos) pos start start'
  keys := keys
  lookup {state state' key i j} kind hs hkey hplace := by
    obtain ⟨rfl, hpos⟩ := hplace
    have hslot : Ahead keys pos (key, i) := ⟨hkey, hpos⟩
    rw [id, hs.agree.lookup_eq hslot]
    exact Stored.renamed_self fun o under hlookup =>
      ⟨rfl, hs.ahead _ _ hslot (State.lookup_eq_some.1 hlookup)⟩
  store context hs hkey hplace ho := by
    obtain ⟨rfl, hpos⟩ := hplace
    obtain rfl := (ho.eq_rename fun h => h.1).trans (Outcome.rename_id _)
    rw [Context.rename_id]
    exact hs.store ⟨hkey, hpos⟩ ho.pos.2
  note hs hevent := by
    obtain rfl := hevent.eq fun h => h.1
    exact hs.note _
  define_eq := G.define_rename_id
  cells _ := True
  built := G.Sources start
  copies {state _ _ cell _ _} hs _ hfill :=
    ⟨state.source cell, ⟨state, hs.changes, rfl⟩, Grammar.copy_source hfill⟩
  fill rule cell hs _ :=
    ⟨(hs.agree.fill rule cell).1.trans (Parser.exceptMap_rename_id _).symm, hs.fill rule cell⟩

end Confinement

/-- The parsers that a parser uses are the library's, with keys that it reaches. -/
theorem Grammar.Built.keyed {G : Grammar S} {p : Parser S α} (h : G.Built Parser.Offered p)
    (state : State S T) {β : Type} {q : Parser S β} (hq : G.Uses (G.Sources state) p q) :
    q.Keyed (G.Reaches state p) := by
  refine ⟨h q (hq.mono fun _ _ _ => trivial), fun node hnode => ⟨node, ?_, rfl⟩⟩
  cases q with
  | memo kind parity key body =>
      obtain rfl := Option.some.inj hnode
      exact hq
  | unit | fail | literal | token | find | all | eof | scan | custom | count | tryMap | zipWith
  | bind | alt | label | commit | look | row | many | ref | delay => cases hnode

variable [LawfulMemoTable T] [LawfulMemoTable T']

/-- A run reads and writes no entries but those of the rules that its parser uses, from its position
on.  From two states with the same entries there, none of which lies behind itself, it comes to the
same outcome and to states with the same entries there.  All other entries are left as they were,
and no entry is ever removed. -/
theorem Grammar.run_confined {G : Grammar S} {p : Parser S α} (hp : G.Built Parser.Offered p)
    (input : Input S.Token) (fuel pos : Nat) (ctx : Context) {state : State S T}
    {state' : State S T'} (hagree : state.Agree (Ahead (G.Reaches state p) pos) state')
    (honward : ∀ slot entry, Ahead (G.Reaches state p) pos slot →
      MemoTable.get? state.memo slot = some entry → slot.2 ≤ entry.outcome.pos) :
    (G.run input fuel p pos ctx state).Rel Eq
      (fun next next' => next.Agree (Ahead (G.Reaches state p) pos) next' ∧
        state.Confined (Ahead (G.Reaches state p) pos) next ∧
        state'.Confined (Ahead (G.Reaches state p) pos) next')
      (G.run input fuel p pos ctx state') := by
  let C := Confinement.translation G input (G.Reaches state p) pos state state'
  have hrun := Grammar.run_translates (C := C)
    (fun _ q hq => (hp.keyed state hq).admits fun _ => trivial) .itself fuel ctx
    ⟨rfl, Nat.le_refl pos⟩
    { agree := hagree
      ahead := fun slot entry hslot hget => Nat.le_trans hslot.2 (honward slot entry hslot hget)
      left := .refl _ _
      right := .refl _ _
      changes := .refl }
  simp only [C, Confinement.translation, Parser.rename_id, Context.rename_id] at hrun
  refine hrun.mono (fun o o' ho => ?_) fun next next' h => ⟨h.agree, h.left, h.right⟩
  exact ((ho.eq_rename fun h => h.1).trans (Outcome.rename_id o)).symm

/-- Two tables of different types hold the same for a rule at a position, and the second one also
holds something for it further back and for another rule.  A run of the rule grows the entry that
both have, and leaves the others. -/
theorem Grammar.run_confined_letters :
    let held : Entry (TextSignature Unit String) :=
      ⟨(), .success ⟨"x", 2, .single (.id 0)⟩, .ofList [(.id 0, 3)]⟩
    let other : Entry (TextSignature Unit String) := ⟨(), .success ⟨"y", 0, ∅⟩, ∅⟩
    let state : State (TextSignature Unit String) OrderedTable := State.new.store (.id 0) 1 held
    let state' : State (TextSignature Unit String) HashedTable :=
      ((State.new.store (.id 0) 0 other).store (.name "y") 1 other).store (.id 0) 1 held
    letters.Built Parser.Offered letter ∧
      state.Agree (Ahead (letters.Reaches state letter) 1) state' ∧
      (∀ slot entry, Ahead (letters.Reaches state letter) 1 slot →
        MemoTable.get? state.memo slot = some entry → slot.2 ≤ entry.outcome.pos) ∧
      ∃ next next',
        letters.run (Input.ofText "xxx") 20 letter 1 ∅ state =
          .done (.success ⟨"xx", 3, .single (.id 0)⟩) next ∧
        letters.run (Input.ofText "xxx") 20 letter 1 ∅ state' =
          .done (.success ⟨"xx", 3, .single (.id 0)⟩) next' ∧
        MemoTable.get? next'.memo (.id 0, 0) = some other ∧
        MemoTable.get? next'.memo (.name "y", 1) = some other := by
  intro held other state state'
  have hkeyed : letters.Built (Parser.Keyed (· = .id 0)) letter := by
    have ok {α : Type} {p : Parser (TextSignature Unit String) α} (hp : p.Offered)
        (hnode : p.node? = none) : p.Keyed (· = .id 0) :=
      ⟨hp, fun node h => by rw [hnode] at h; cases h⟩
    refine .of_defined (ok trivial rfl) fun _ => ⟨⟨trivial, ?_⟩, ok trivial rfl,
      ⟨ok trivial rfl, ok trivial rfl, ok trivial rfl, ok trivial rfl, ok trivial rfl⟩,
      ok trivial rfl, ok trivial rfl⟩
    rintro _ ⟨⟩
    rfl
  have hbuilt : letters.Built Parser.Offered letter := fun _ q hq => (hkeyed q hq).1
  have hreach {key : Key} (h : letters.Reaches state letter key) : key = .id 0 := by
    obtain ⟨node, huses, rfl⟩ := h
    exact (hkeyed _ (huses.mono fun _ _ _ => trivial)).2 node rfl
  have hagree : state.Agree (Ahead (letters.Reaches state letter) 1) state' := by
    refine ⟨fun slot hslot => ?_, rfl, rfl, rfl⟩
    obtain ⟨key, pos⟩ := slot
    obtain rfl : key = .id 0 := hreach hslot.1
    have hpos : 1 ≤ pos := hslot.2
    have hne : ¬ 0 = pos := by omega
    simp [state, state', State.store, State.new, LawfulMemoTable.get?_insert,
      LawfulMemoTable.get?_empty, hne]
  have honward : ∀ slot entry, Ahead (letters.Reaches state letter) 1 slot →
      MemoTable.get? state.memo slot = some entry → slot.2 ≤ entry.outcome.pos := by
    intro slot entry _ hget
    simp only [state, State.store, State.new, LawfulMemoTable.get?_insert,
      LawfulMemoTable.get?_empty] at hget
    split at hget
    next hslot =>
      obtain rfl := Option.some.inj hget
      subst hslot
      decide
    next => cases hget
  refine ⟨hbuilt, hagree, honward, ?_⟩
  have hrun : ∃ next, letters.run (Input.ofText "xxx") 20 letter 1 ∅ state =
      .done (.success ⟨"xx", 3, .single (.id 0)⟩) next :=
    Result.exists_of_finished (by decide +kernel)
  obtain ⟨next, hrun⟩ := hrun
  have hconfined := run_confined hbuilt (Input.ofText "xxx") 20 1 ∅ hagree honward
  rw [hrun] at hconfined
  obtain ⟨o, next', hrun', rfl, -, -, houtside⟩ := hconfined.of_done
  refine ⟨next, next', hrun, hrun', ?_, ?_⟩
  · rw [houtside.get?_eq _ fun h => absurd h.2 (by decide)]
    simp [state', State.store, LawfulMemoTable.get?_insert]
  · rw [houtside.get?_eq _ fun h => absurd (hreach h.1) (by decide)]
    simp [state', State.store, LawfulMemoTable.get?_insert]

end LeftRec
