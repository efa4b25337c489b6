import Mathlib.Data.Finset.Prod
import LeftRec.Memo.Ordered
import LeftRec.Proofs.Onward
import LeftRec.Proofs.Progress
import LeftRec.Proofs.Provenance
import LeftRec.Samples.Text

/-!
# Boundaries — positions stay valid, and the table stays small

A run that begins at a boundary only ever comes to boundaries that lie between its start and the end
of the input: there parsers are run, there outcomes lie, and there entries are stored.  Each memo
key is therefore stored at no more places than there are tokens from the start on, and one place
more, the end.
-/

namespace LeftRec

variable {S : Signature} {T : Type → Type} {α : Type}

/-! ## Places -/

/-- The position is a boundary between `start` and the end. -/
structure Input.Within {τ : Type} (input : Input τ) (start pos : Nat) : Prop where
  boundary : input.Boundary pos
  from_start : start ≤ pos
  to_end : pos ≤ input.extent

namespace Input.Within

variable {τ : Type} {input : Input τ} {start pos : Nat}

theorem of_reads {word : List τ} (hstart : input.Boundary start)
    (h : input.Reads start word pos) : input.Within start pos where
  boundary := h.boundary hstart
  from_start := h.le
  to_end := (h.boundary hstart).le_extent

/-- No more remains there than at the start. -/
theorem remaining_le (h : input.Within start pos) (hstart : input.Boundary start) :
    input.remaining pos ≤ input.remaining start := by
  have hnot := mt (h.boundary.lt_iff hstart).2 (Nat.not_lt.2 h.from_start)
  omega

end Input.Within

/-- A table whose entries lie at boundaries from `start` on, under the given keys, is no larger than
the number of keys times the number of places. -/
theorem MemoTable.size_le [MemoTable T] [LawfulMemoTable T] {τ ε : Type} {input : Input τ}
    {start : Nat} {table : T ε} {keys : Finset Key} (hstart : input.Boundary start)
    (h : ∀ slot entry, get? table slot = some entry →
      slot.1 ∈ keys ∧ input.Within start slot.2) :
    size table ≤ keys.card * (input.remaining start + 1) := by
  -- A slot is told by its key and by how many tokens remain at its position.
  let place (slot : Slot) : Key × Nat := (slot.1, input.remaining slot.2)
  have hslot : ∀ slot ∈ (slots table).toFinset, slot.1 ∈ keys ∧ input.Within start slot.2 := by
    intro slot hmem
    obtain ⟨entry, hget⟩ := Option.isSome_iff_exists.1
      ((LawfulMemoTable.mem_slots table slot).1 (List.mem_toFinset.1 hmem))
    exact h slot entry hget
  have hplace : ∀ slot ∈ (slots table).toFinset,
      place slot ∈ keys ×ˢ Finset.range (input.remaining start + 1) := by
    intro slot hmem
    obtain ⟨hkey, hwithin⟩ := hslot slot hmem
    exact Finset.mem_product.2
      ⟨hkey, Finset.mem_range.2 (Nat.lt_succ_of_le (hwithin.remaining_le hstart))⟩
  have hinjective : Set.InjOn place (slots table).toFinset := by
    intro slot hmem other hother hsame
    obtain ⟨hkey, hremaining⟩ := Prod.mk.inj hsame
    have hpos := ((hslot slot hmem).2.boundary.eq_iff (hslot other hother).2.boundary).2 hremaining
    exact Prod.ext hkey hpos
  calc
    size table = (slots table).length := (LawfulMemoTable.length_slots table).symm
    _ = (slots table).toFinset.card :=
      (List.toFinset_card_of_nodup (LawfulMemoTable.nodup_slots table)).symm
    _ ≤ (keys ×ˢ Finset.range (input.remaining start + 1)).card :=
      Finset.card_le_card_of_injOn place hplace hinjective
    _ = keys.card * (input.remaining start + 1) := by
      rw [Finset.card_product, Finset.card_range]

namespace Grammar

variable [MemoTable T] [LawfulMemoTable T] {G : Grammar S} {input : Input S.Token}
variable {root w : Visit S T}

/-! ## Visits within the input -/

/-- The visit begins at a boundary, and all that it finds in the table was reached by reading. -/
theorem OnCourse.within (h : G.OnCourse (.reading input) root) (hvisits : G.Visits input root w) :
    input.Within root.pos w.pos ∧
      ∀ o after, G.visit input w = .done o after → input.Within w.pos o.pos := by
  obtain ⟨hw, word, hword⟩ := h.visits hvisits
  refine ⟨.of_reads h.starts hword, fun o after hrun => ?_⟩
  obtain ⟨⟨more, hmore⟩, -⟩ := hw.finish hrun
  exact .of_reads hw.starts hmore

/-- What a visit stores lies where the visit began, under the key of its parser, and its outcome
between there and the end. -/
theorem Stores.within {v : Visit S T} {slot : Slot} {entry : Entry S}
    (hstores : G.Stores input v slot entry) (hroot : G.OnCourse (.reading input) root)
    (hvisits : G.Visits input root v) :
    (∃ node : MemoNode S, v.parser.node? = some node ∧
        G.Uses anyCopy root.parser node.parser ∧ node.key = slot.1) ∧
      input.Within root.pos slot.2 ∧ input.Within slot.2 entry.outcome.pos := by
  obtain ⟨hwithin, hfinish⟩ := hroot.within hvisits
  cases hstores with
  | @memo kind parity key p _ _ _ _ _ _ _ _ hrun =>
      exact ⟨⟨⟨kind, parity, key, p⟩, rfl, Visits.uses hvisits, rfl⟩, hwithin, hfinish _ _ hrun⟩

/-- In a run that begins at a boundary with an empty table, parsers are only run at boundaries from
there on, and come to outcomes between where they are run and the end.  At every moment, even if a
fault stops the run, the entries of the table lie at such boundaries, under keys of the grammar's
memoized parsers, with outcomes between their own position and the end.  So the table has at most
one entry for each key of a parser that was run and each token from the start on, and one for each
key at the end. -/
theorem run_within (hoffered : G.Built Parser.Offered root.parser)
    (hpos : input.Boundary root.pos) (hempty : root.state.NoEntries) :
    (∀ w, G.Visits input root w → input.Within root.pos w.pos ∧
      ∀ o after, G.visit input w = .done o after → input.Within w.pos o.pos) ∧
    ∀ state, G.Passes input root state →
      (∀ slot entry, MemoTable.get? state.memo slot = some entry →
        input.Within root.pos slot.2 ∧ input.Within slot.2 entry.outcome.pos ∧
        ∃ node : MemoNode S, G.Uses anyCopy root.parser node.parser ∧ node.key = slot.1) ∧
      ∀ keys : Finset Key,
        (∀ v node, G.Visits input root v → v.parser.node? = some node → node.key ∈ keys) →
          MemoTable.size state.memo ≤ keys.card * (input.remaining root.pos + 1) := by
  have hroot : G.OnCourse (.reading input) root :=
    { offered := hoffered, starts := hpos, along := hempty.along _ }
  -- The table was empty, so every entry was stored by a visit.
  have hentry {state : State S T} (hpasses : G.Passes input root state) {slot : Slot}
      {entry : Entry S} (hget : MemoTable.get? state.memo slot = some entry) :
      ∃ v, G.Visits input root v ∧ G.Stores input v slot entry := by
    rcases hpasses.provenance hoffered.composed hget with hold | ⟨v, hvisits, hstores⟩
    · rw [hempty.get?_eq_none] at hold
      cases hold
    · exact ⟨v, hvisits, hstores⟩
  refine ⟨fun w => hroot.within, fun state hpasses => ⟨fun slot entry hget => ?_,
    fun keys hkeys => MemoTable.size_le hpos fun slot entry hget => ?_⟩⟩
  · obtain ⟨v, hvisits, hstores⟩ := hentry hpasses hget
    obtain ⟨⟨node, -, huses, hkey⟩, hslot, hend⟩ := hstores.within hroot hvisits
    exact ⟨hslot, hend, node, huses, hkey⟩
  · obtain ⟨v, hvisits, hstores⟩ := hentry hpasses hget
    obtain ⟨⟨node, hnode, -, hkey⟩, hslot, -⟩ := hstores.within hroot hvisits
    exact ⟨hkey ▸ hkeys v node hvisits hnode, hslot⟩

/-- How many tokens follow, found out by recursion to the right. -/
def lengths : Grammar (TextSignature Unit Nat) where
  define _ :=
    let longer : Parser (TextSignature Unit Nat) Nat :=
      .zipWith (fun _ (n : Nat) => n + 1) .any (.ref (S := TextSignature Unit Nat) ())
    some (.memo (S := TextSignature Unit Nat) () .even (.id 0) (longer.fallback 0))

/-- The rule of lengths is stored at each of two Greek letters and at the end, so the bound on the
table is met. -/
theorem run_within_lengths :
    let p : Parser (TextSignature Unit Nat) Nat := .ref (S := TextSignature Unit Nat) ()
    ∃ o after, lengths.run (T := OrderedTable) (Input.ofText "λμ") 20 p 0 ∅ .new = .done o after ∧
      (Input.ofText "λμ").Within 0 o.pos ∧ o.pos = 4 ∧
      MemoTable.size after.memo ≤ 1 * (2 + 1) ∧ MemoTable.size after.memo = 3 := by
  intro p
  have hoffered : lengths.Built Parser.Offered p :=
    .of_defined trivial fun _ => ⟨trivial, trivial, ⟨trivial, trivial, trivial⟩, trivial⟩
  have hlisted : lengths.Built (fun q => ∀ node, q.node? = some node → node.key = .id 0) p := by
    refine .of_defined ?_ fun _ => ?_
    · simp [p, Parser.All, Parser.node?]
    · simp [Parser.All, Parser.node?, Parser.fallback, Parser.any]
  let check (o : Outcome Nat) (after : State (TextSignature Unit Nat) OrderedTable) : Bool :=
    decide (o.pos = 4) && decide (MemoTable.size after.memo = 3)
  have hcheck : (lengths.run (Input.ofText "λμ") 20 p 0 ∅ .new).finishedWith check = true := by
    decide +kernel
  obtain ⟨o, after, hrun, ho⟩ := Result.exists_of_finishedWith hcheck
  simp only [check, Bool.and_eq_true, decide_eq_true_eq] at ho
  obtain ⟨hend, hsize⟩ := ho
  obtain ⟨hvisits, hpasses⟩ := @run_within _ OrderedTable _ _ lengths (Input.ofText "λμ")
    ⟨p, 20, 0, ∅, .new⟩ hoffered Input.boundary_zero State.noEntries_new
  obtain ⟨-, hbound⟩ := hpasses after ⟨_, .refl, .inr (congrArg Result.state? hrun)⟩
  refine ⟨o, after, hrun, (hvisits _ .refl).2 o after hrun, hend, ?_, hsize⟩
  exact hbound {.id 0} fun v node hv hnode =>
    Finset.mem_singleton.2 (hlisted v.parser (Visits.uses hv) node hnode)

end Grammar

end LeftRec
