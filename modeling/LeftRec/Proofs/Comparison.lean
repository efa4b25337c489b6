import LeftRec.Proofs.ContextMap
import LeftRec.Proofs.Erasure
import LeftRec.Proofs.Table
import LeftRec.Proofs.Usage

/-!
# Comparison — memoized runs beside erased ones

Where the erased grammar finishes, the memoized one is to do the same with a table.  The two runs
are compared step by step: the table holds nothing but outcomes of erased runs under the empty
context, and no rule is entered again while it is being run at a position.  For if it were, then the
erased body would have to finish in the course of its own run, each time with less fuel.
-/

namespace LeftRec

variable {S : Signature} {T : Type → Type} {α β γ : Type}

/-! ## What is compared -/

/-- The cells that are filled get the copies that are built from the supplies noted for them. -/
def State.Built (final : State S T) (cell : Nat) (workshop : Workshop) : Prop :=
  final.cells.lookup cell = some workshop.supply

/-- A grammar and its start, and the state in which the erased run from there has ended. -/
structure Comparison (S : Signature) (T : Type → Type) where
  grammar : Grammar S
  input : Input S.Token
  {ρ : Type}
  root : Parser S ρ
  final : State S T
  steady : grammar.Steady
  offered : grammar.Built Parser.Offered root
  keys : grammar.DistinctKeys final.Built root

namespace Comparison

variable {C : Comparison S T} {p : Parser S α} {q : Parser S β}

/-- The parser takes part in the comparison. -/
def Uses (C : Comparison S T) (p : Parser S α) : Prop :=
  C.grammar.Uses C.final.Built C.root p

theorem Uses.part (h : C.Uses p) (hq : q.Part p) : C.Uses q :=
  Grammar.Uses.part h hq

theorem Uses.offered (h : C.Uses p) : C.grammar.Built Parser.Offered p :=
  C.offered.of_uses (h.mono fun _ _ _ => trivial)

/-- One key belongs to one body. -/
theorem Uses.body_eq {kind : S.Kind} {parity parity' : Parity} {key : Key}
    {body body' : Parser S (S.Value kind)} (h : C.Uses (.memo kind parity key body))
    (h' : C.Uses (.memo kind parity' key body')) : body = body' := by
  have heq := C.keys ⟨kind, parity, key, body⟩ ⟨kind, parity', key, body'⟩ h h' rfl
  simp only [MemoNode.mk.injEq, heq_eq_eq, true_and] at heq
  exact heq.2

/-! ## Erased runs -/

variable [MemoTable T]

/-- What the erased parser does. -/
def plain (C : Comparison S T) (fuel : Nat) (p : Parser S α) : Run S T α :=
  C.grammar.erase.run C.input fuel p.erase

theorem stable_plain (h : C.Uses p) (fuel : Nat) : (C.plain fuel p).Stable :=
  Grammar.stable_run C.steady h.offered fuel

section Plain

variable {fuel fuel' pos : Nat} {bare after after' : State S T} {o o' : Outcome α}

theorem plain_unique (h : C.plain fuel p pos ∅ bare = .done o after)
    (h' : C.plain fuel' p pos ∅ bare = .done o' after') : o = o' ∧ after = after' :=
  Grammar.run_done_unique h h'

/-- The outcome of an erased run may be had again from any later state. -/
theorem plain_again (hp : C.Uses p) (h : C.plain fuel p pos ∅ bare = .done o after)
    {later : State S T} (hlater : after.Within later) :
    C.plain fuel p pos ∅ later = .done o later :=
  (C.stable_plain hp fuel h).2.2 later hlater

theorem within_of_plain (hp : C.Uses p) (h : C.plain fuel p pos ∅ bare = .done o after) :
    bare.Within after :=
  (C.stable_plain hp fuel h).1

theorem used_of_plain (hp : C.Uses p) (h : C.plain fuel p pos ∅ bare = .done o after) :
    o.used = ∅ :=
  (C.stable_plain hp fuel h).2.1

end Plain

/-! ## Erased runs inside one another -/

/-- The erased parser finishes with so much fuel, once all cells are filled. -/
def Answers (C : Comparison S T) (fuel : Nat) (p : Parser S α) (pos : Nat) : Prop :=
  ∃ o after, C.plain fuel p pos ∅ C.final = .done o after

/-- Whenever the body finishes at the position, the parser has finished there before: with less
fuel, or with the same as a part of the body. -/
def Inside (C : Comparison S T) (p : Parser S α) (body : Parser S β) (pos : Nat) : Prop :=
  (∀ fuel, C.Answers fuel body pos → ∃ less < fuel, C.Answers less p pos) ∨
    body.Encloses p ∧ ∀ fuel, C.Answers fuel body pos → C.Answers fuel p pos

namespace Inside

variable {body : Parser S γ} {pos : Nat}

theorem itself : C.Inside body body pos :=
  .inr ⟨.itself, fun _ h => h⟩

theorem part (h : C.Inside p body pos) (hq : q.Part p)
    (hanswers : ∀ fuel, C.Answers fuel p pos → C.Answers fuel q pos) : C.Inside q body pos := by
  rcases h with h | ⟨hencloses, h⟩
  · refine .inl fun fuel hbody => ?_
    obtain ⟨less, hless, hp⟩ := h fuel hbody
    exact ⟨less, hless, hanswers less hp⟩
  · exact .inr ⟨hencloses.part hq, fun fuel hbody => hanswers fuel (h fuel hbody)⟩

/-- Calling takes fuel. -/
theorem call (h : C.Inside p body pos)
    (hanswers : ∀ fuel, C.Answers fuel p pos → ∃ less < fuel, C.Answers less q pos) :
    C.Inside q body pos := by
  refine .inl fun fuel hbody => ?_
  -- Either way there is less fuel for the callee than the body had.
  rcases h with h | ⟨-, h⟩
  · obtain ⟨less, hless, hp⟩ := h fuel hbody
    obtain ⟨least, hleast, hq⟩ := hanswers less hp
    exact ⟨least, hleast.trans hless, hq⟩
  · exact hanswers fuel (h fuel hbody)

end Inside

/-- A body that finishes at a position is not entered there while it is being run. -/
theorem not_inside {kind : S.Kind} {parity : Parity} {key : Key} {body : Parser S (S.Value kind)}
    {fuel pos : Nat} (h : C.Answers fuel body pos) :
    ¬ C.Inside (.memo kind parity key body) body pos := by
  rintro (hless | ⟨hencloses, -⟩)
  · -- The erased memoized parser is its erased body, so the body answers with less and less fuel.
    induction fuel using Nat.strong_induction_on with
    | _ fuel ih =>
        obtain ⟨less, hlt, hagain⟩ := hless fuel h
        exact ih less hlt hagain
  · exact Parser.not_encloses_of_part (.memo kind parity key body) hencloses

/-! ## States side by side -/

/-- The table of the first state holds outcomes of erased runs, and but for the table and the
events nothing distinguishes the states. -/
structure Mirrors (C : Comparison S T) (state bare : State S T) : Prop where
  cells_eq : state.cells = bare.cells
  supply_eq : state.workshop.supply = bare.workshop.supply
  faithful : ∀ ⦃kind key pos o under⦄, state.lookup kind key pos = some (o, under) →
    under = ∅ ∧ ∀ parity body, C.Uses (.memo kind parity key body) →
      ∃ fuel, ∀ later : State S T, bare.Within later →
        C.plain fuel body pos ∅ later = .done o later

namespace Mirrors

variable {state bare : State S T}

theorem of_noEntries (h : state.NoEntries) : C.Mirrors state state where
  cells_eq := rfl
  supply_eq := rfl
  faithful kind key pos o under hlookup := by
    rw [h kind key pos] at hlookup
    cases hlookup

/-- An event that is noted is no difference. -/
theorem note (h : C.Mirrors state bare) (event : Event) : C.Mirrors (state.note event) bare :=
  ⟨h.cells_eq, h.supply_eq, h.faithful⟩

/-- What the table has for a rule is what its body comes to. -/
theorem stored_eq {kind : S.Kind} {parity : Parity} {key : Key} {body : Parser S (S.Value kind)}
    {fuel pos : Nat} {after : State S T} {o stored : Outcome (S.Value kind)} {under : Context}
    (h : C.Mirrors state bare) (huses : C.Uses (.memo kind parity key body))
    (hrun : C.plain fuel body pos ∅ bare = .done o after)
    (hlookup : state.lookup kind key pos = some (stored, under)) :
    stored = o ∧ after = bare ∧ under = ∅ := by
  obtain ⟨hunder, hstored⟩ := h.faithful hlookup
  -- The table knows some run of this body, and runs of one parser from one state agree.
  obtain ⟨fuel', hagain⟩ := hstored parity body huses
  obtain ⟨ho, hafter⟩ := plain_unique hrun (hagain bare (.refl bare))
  exact ⟨ho.symm, hafter, hunder⟩

end Mirrors

/-! ## Runs side by side -/

/-- The erased run finishes, and the memoized run is about to do the same from a state that mirrors
the erased one.  The rules that the context tracks are those inside which both runs are. -/
structure Shadows (C : Comparison S T) (fuel : Nat) (p : Parser S α) (pos : Nat) (ctx : Context)
    (state bare : State S T) (o : Outcome α) (after : State S T) : Prop where
  uses : C.Uses p
  mirrors : C.Mirrors state bare
  plain : C.plain fuel p pos ∅ bare = .done o after
  within : after.Within C.final
  inside : ∀ node : MemoNode S, C.Uses node.parser → ctx.depth node.key ≠ 0 →
    C.Inside p node.body pos

/-- The memoized run finishes with the given outcome, in a state that mirrors the given one. -/
def Tracks (C : Comparison S T) (fuel : Nat) (p : Parser S α) (pos : Nat) (ctx : Context)
    (state : State S T) (o : Outcome α) (after : State S T) : Prop :=
  ∃ next, C.grammar.run C.input fuel p pos ctx state = .done o next ∧ C.Mirrors next after

/-- Whatever the erased parser finishes with, the memoized one finishes with. -/
def Tracked (C : Comparison S T) (fuel : Nat) (p : Parser S α) : Prop :=
  ∀ ⦃pos ctx state bare o after⦄, C.Shadows fuel p pos ctx state bare o after →
    C.Tracks fuel p pos ctx state o after

namespace Shadows

variable {fuel pos : Nat} {ctx : Context} {state bare after : State S T} {o : Outcome α}

/-- Where no rule is tracked, no rule can be entered again. -/
theorem fresh (huses : C.Uses p) (hmirrors : C.Mirrors state bare)
    (hrun : C.plain fuel p pos ∅ bare = .done o after) (hwithin : after.Within C.final) :
    C.Shadows fuel p pos ∅ state bare o after :=
  ⟨huses, hmirrors, hrun, hwithin, fun _ _ hdepth => absurd rfl hdepth⟩

variable (h : C.Shadows fuel p pos ctx state bare o after)

include h

theorem again : C.plain fuel p pos ∅ C.final = .done o C.final :=
  plain_again h.uses h.plain h.within

theorem answers : C.Answers fuel p pos :=
  ⟨o, C.final, h.again⟩

/-- A part that begins where the whole does. -/
theorem first (hq : q.Part p) {first : Outcome β} {middle : State S T}
    (hrun : C.plain fuel q pos ∅ bare = .done first middle) (hwithin : middle.Within C.final)
    (hanswers : ∀ n, C.Answers n p pos → C.Answers n q pos) :
    C.Shadows fuel q pos ctx state bare first middle where
  uses := h.uses.part hq
  mirrors := h.mirrors
  plain := hrun
  within := hwithin
  inside node hnode hdepth := (h.inside node hnode hdepth).part hq hanswers

/-- A part that begins where another part has ended. -/
theorem next (hq : q.Part p) {stop : Nat} {next middle last : State S T} {second : Outcome β}
    (hmirrors : C.Mirrors next middle) (hrun : C.plain fuel q stop ∅ middle = .done second last)
    (hwithin : last.Within C.final) (hanswers : ∀ n, C.Answers n p pos → C.Answers n q stop) :
    C.Shadows fuel q stop (ctx.carried pos stop) next middle second last := by
  by_cases hstop : pos = stop
  -- Nothing was consumed, so the part is still inside everything that the whole is inside.
  · subst hstop
    rw [Context.carried, if_pos rfl]
    refine ⟨h.uses.part hq, hmirrors, hrun, hwithin, fun node hnode hdepth => ?_⟩
    exact (h.inside node hnode hdepth).part hq hanswers
  · rw [Context.carried, if_neg hstop]
    exact fresh (h.uses.part hq) hmirrors hrun hwithin

end Shadows

end Comparison

end LeftRec
