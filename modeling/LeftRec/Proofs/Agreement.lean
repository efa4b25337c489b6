import LeftRec.Evaluate
import LeftRec.Proofs.Table

/-!
# Agreement — states with the same entries in a region

Two states agree in a region of the memo table if they have the same entries there and the same of
everything besides the table.  Whatever a parse asks of a state or changes in it, it is answered
alike and keeps the agreement, as long as it keeps to the region.  The tables may be of two types.
-/

namespace LeftRec

variable {S : Signature} {T T' : Type → Type} [MemoTable T] [MemoTable T']

/-- The two states have the same entries in a region, and the same of everything besides. -/
structure State.Agree (region : Slot → Prop) (state : State S T) (state' : State S T') : Prop where
  get?_eq : ∀ slot, region slot → MemoTable.get? state'.memo slot = MemoTable.get? state.memo slot
  workshop_eq : state'.workshop = state.workshop
  cells_eq : state'.cells = state.cells
  counts_eq : state'.counts = state.counts

namespace State.Agree

variable {region : Slot → Prop} {state : State S T} {state' : State S T'}

theorem lookup_eq (h : state.Agree region state') {key : Key} {pos : Nat}
    (hslot : region (key, pos)) (kind : S.Kind) :
    state'.lookup kind key pos = state.lookup kind key pos := by
  unfold lookup
  rw [h.get?_eq _ hslot]

theorem note (h : state.Agree region state') (event : Event) :
    (state.note event).Agree region (state'.note event) where
  get?_eq := h.get?_eq
  workshop_eq := congrArg (Workshop.note · event) h.workshop_eq
  cells_eq := h.cells_eq
  counts_eq := h.counts_eq

theorem count (h : state.Agree region state') (what : String) :
    (state.count what).Agree region (state'.count what) where
  get?_eq := h.get?_eq
  workshop_eq := h.workshop_eq
  cells_eq := h.cells_eq
  counts_eq := congrArg (tally what) h.counts_eq

/-- Cells are filled alike, whatever the tables hold. -/
theorem fill {G : Grammar S} (h : state.Agree region state') (rule : S.Rule) (cell : Nat) :
    (G.fill rule cell state').1 = (G.fill rule cell state).1 ∧
      (G.fill rule cell state).2.Agree region (G.fill rule cell state').2 := by
  unfold Grammar.fill
  rw [h.cells_eq, h.workshop_eq]
  cases state.cells.lookup cell with
  | some supply => exact ⟨rfl, h⟩
  | none =>
      rcases G.copy rule state.workshop with ⟨_ | body, workshop⟩
      · exact ⟨rfl, ⟨h.get?_eq, rfl, rfl, h.counts_eq⟩⟩
      · exact ⟨rfl, ⟨h.get?_eq, rfl, rfl, h.counts_eq⟩⟩

variable [LawfulMemoTable T] [LawfulMemoTable T']

theorem store (h : state.Agree region state') (key : Key) (pos : Nat) (entry : Entry S) :
    (state.store key pos entry).Agree region (state'.store key pos entry) where
  get?_eq slot hslot := by
    simp only [State.store, LawfulMemoTable.get?_insert, h.get?_eq slot hslot]
  workshop_eq := h.workshop_eq
  cells_eq := h.cells_eq
  counts_eq := h.counts_eq

/-- Cleared tables agree everywhere. -/
theorem clear (h : state.Agree region state') (larger : Slot → Prop) :
    state.clear.Agree larger state'.clear where
  get?_eq slot _ := by simp only [State.clear, LawfulMemoTable.get?_empty]
  workshop_eq := h.workshop_eq
  cells_eq := h.cells_eq
  counts_eq := h.counts_eq

end State.Agree

end LeftRec
