import Mathlib.Logic.Relation
import LeftRec.Proofs.Fuel
import LeftRec.Proofs.Usage

/-!
# Visits — what is run in the course of a run

A visit is a parser being run somewhere, under a context and from a state.  In its course it enters
the visits of its parts, of the bodies of rules and of copies.  Statements about "every invocation
during a run" are statements about all visits that are entered from the first one on.
-/

namespace LeftRec

variable {S : Signature} {T : Type → Type}

/-- A parser being run with some fuel at a position, under a context and from a state. -/
structure Visit (S : Signature) (T : Type → Type) where
  {α : Type}
  parser : Parser S α
  fuel : Nat
  pos : Nat
  ctx : Context
  state : State S T

namespace Grammar

variable [MemoTable T] (G : Grammar S) (input : Input S.Token)

/-! ## Parts of a grammar's runs -/

section Equations

variable {G input} {α β γ : Type} {fuel : Nat} {p : Parser S α} {q : Parser S β}

theorem run_tryMap (f : α → Except Fault β) :
    (G.run input fuel (.tryMap f p) : Run S T β) = Run.tryMap f (G.run input fuel p) := by
  cases fuel <;> rfl

theorem run_zipWith (f : α → β → γ) :
    (G.run input fuel (.zipWith f p q) : Run S T γ) =
      Run.zipWith f (G.run input fuel p) (G.run input fuel q) := by
  cases fuel <;> rfl

theorem run_bind (f : α → Parser S β) :
    (G.run input fuel (.bind p f) : Run S T β) =
      Run.bind (G.run input fuel p) fun a => G.run input fuel (f a) := by
  cases fuel <;> rfl

theorem run_alt (r : Parser S α) :
    (G.run input fuel (.alt p r) : Run S T α) =
      Run.alt (G.run input fuel p) (G.run input fuel r) := by
  cases fuel <;> rfl

theorem run_label (name : String) :
    (G.run input fuel (.label name p) : Run S T α) = Run.label name (G.run input fuel p) := by
  cases fuel <;> rfl

theorem run_commit :
    (G.run input fuel (.commit p) : Run S T α) = Run.commit (G.run input fuel p) := by
  cases fuel <;> rfl

theorem run_look :
    (G.run input fuel (.look p) : Run S T Bool) = Run.look (G.run input fuel p) := by
  cases fuel <;> rfl

theorem run_row (count : Nat) (part : Fin count → Parser S α) :
    (G.run input (fuel + 1) (.row count part) : Run S T (List α)) =
      Run.row ((List.ofFn part).map fun p => G.run input (fuel + 1) p) :=
  Parser.eval_row input fuel (G.call input fuel) count part

theorem run_many :
    (G.run input (fuel + 1) (.many p) : Run S T (List α)) =
      Run.many fuel (G.run input (fuel + 1) p) := rfl

theorem run_memo {kind : S.Kind} (parity : Parity) (key : Key) (p : Parser S (S.Value kind)) :
    (G.run input (fuel + 1) (.memo kind parity key p) : Run S T (S.Value kind)) =
      Run.memo input kind parity key (G.run input (fuel + 1) p) := rfl

theorem run_ref (rule : S.Rule) :
    (G.run input (fuel + 1) (.ref rule) : Run S T _) = G.call input fuel rule none := rfl

theorem run_delay (cell : Nat) (rule : S.Rule) :
    (G.run input (fuel + 1) (.delay cell rule) : Run S T _) =
      G.call input fuel rule (some cell) := rfl

end Equations

/-! ## Entering -/

/-- How far a row that began at `start` under `ctx` has come: which parts are left, where, and from
which state. -/
inductive RowAt {α : Type} (fuel start : Nat) (ctx : Context) (parts : List (Parser S α))
    (state : State S T) : List (Parser S α) → Nat → State S T → Prop
  | start : RowAt fuel start ctx parts state parts start state
  | next {p : Parser S α} {rest : List (Parser S α)} {pos : Nat} {middle after : State S T}
      {s : Success α} :
      RowAt fuel start ctx parts state (p :: rest) pos middle →
        G.run input fuel p pos (ctx.carried start pos) middle = .done (.success s) after →
          RowAt fuel start ctx parts state rest s.pos after

/-- How far a repetition has come: where its next round is, under which context, and from which
state. -/
inductive ManyAt {α : Type} (fuel : Nat) (p : Parser S α) (start : Nat) (ctx : Context)
    (state : State S T) : Nat → Context → State S T → Prop
  | start : ManyAt fuel p start ctx state start ctx state
  | next {pos : Nat} {under : Context} {middle after : State S T} {s : Success α} :
      ManyAt fuel p start ctx state pos under middle →
        G.run input fuel p pos under middle = .done (.success s) after → s.pos ≠ pos →
          ManyAt fuel p start ctx state s.pos ∅ after

/-- The first visit enters the second one in its course. -/
inductive Enters : Visit S T → Visit S T → Prop
  | count {α : Type} (what : String) (p : Parser S α) {fuel pos ctx state} :
      Enters ⟨.count what p, fuel, pos, ctx, state⟩ ⟨p, fuel, pos, ctx, state.count what⟩
  | tryMap {α β : Type} (f : α → Except Fault β) (p : Parser S α) {fuel pos ctx state} :
      Enters ⟨.tryMap f p, fuel, pos, ctx, state⟩ ⟨p, fuel, pos, ctx, state⟩
  | zipWithLeft {α β γ : Type} (f : α → β → γ) (p : Parser S α) (q : Parser S β)
      {fuel pos ctx state} :
      Enters ⟨.zipWith f p q, fuel, pos, ctx, state⟩ ⟨p, fuel, pos, ctx, state⟩
  | zipWithRight {α β γ : Type} (f : α → β → γ) (p : Parser S α) (q : Parser S β)
      {fuel pos ctx state middle} {s : Success α} :
      G.run input fuel p pos ctx state = .done (.success s) middle →
        Enters ⟨.zipWith f p q, fuel, pos, ctx, state⟩
          ⟨q, fuel, s.pos, ctx.carried pos s.pos, middle⟩
  | bindFirst {α β : Type} (p : Parser S α) (f : α → Parser S β) {fuel pos ctx state} :
      Enters ⟨.bind p f, fuel, pos, ctx, state⟩ ⟨p, fuel, pos, ctx, state⟩
  | bindNext {α β : Type} (p : Parser S α) (f : α → Parser S β) {fuel pos ctx state middle}
      {s : Success α} :
      G.run input fuel p pos ctx state = .done (.success s) middle →
        Enters ⟨.bind p f, fuel, pos, ctx, state⟩
          ⟨f s.value, fuel, s.pos, ctx.carried pos s.pos, middle⟩
  | altLeft {α : Type} (p q : Parser S α) {fuel pos ctx state} :
      Enters ⟨.alt p q, fuel, pos, ctx, state⟩ ⟨p, fuel, pos, ctx, state⟩
  | altRight {α : Type} (p q : Parser S α) {fuel pos ctx state middle} {e : Failure} :
      G.run input fuel p pos ctx state = .done (.failure e) middle → e.isFatal = false →
        Enters ⟨.alt p q, fuel, pos, ctx, state⟩ ⟨q, fuel, pos, ctx, middle⟩
  | label {α : Type} (name : String) (p : Parser S α) {fuel pos ctx state} :
      Enters ⟨.label name p, fuel, pos, ctx, state⟩ ⟨p, fuel, pos, ctx, state⟩
  | commit {α : Type} (p : Parser S α) {fuel pos ctx state} :
      Enters ⟨.commit p, fuel, pos, ctx, state⟩ ⟨p, fuel, pos, ctx, state⟩
  | look {α : Type} (p : Parser S α) {fuel pos ctx state} :
      Enters ⟨.look p, fuel, pos, ctx, state⟩ ⟨p, fuel, pos, ctx, state⟩
  | row {α : Type} (count : Nat) (part : Fin count → Parser S α) {fuel start ctx state pos middle}
      {p : Parser S α} {rest : List (Parser S α)} :
      G.RowAt input fuel start ctx (List.ofFn part) state (p :: rest) pos middle →
        Enters ⟨.row count part, fuel, start, ctx, state⟩
          ⟨p, fuel, pos, ctx.carried start pos, middle⟩
  | many {α : Type} (p : Parser S α) {fuel start ctx state pos under middle} :
      G.ManyAt input fuel p start ctx state pos under middle →
        Enters ⟨.many p, fuel, start, ctx, state⟩ ⟨p, fuel, pos, under, middle⟩
  | memo {kind : S.Kind} (parity : Parity) (key : Key) (p : Parser S (S.Value kind))
      {fuel pos ctx state} :
      Run.Missed state kind key pos ctx → ctx.depth key ≤ Run.depthBound (input.remaining pos) →
        ctx.depth key < Context.depthLimit →
          Enters ⟨.memo kind parity key p, fuel, pos, ctx, state⟩
            ⟨p, fuel, pos, ctx.withDepth key (ctx.depth key + 1), state⟩
  | ref {rule : S.Rule} {body : Parser S (S.Value (S.kind rule))} {fuel pos ctx state} :
      G.define rule = some body →
        Enters ⟨.ref rule, fuel + 1, pos, ctx, state⟩ ⟨body, fuel, pos, ctx, state⟩
  | copy {cell : Nat} {rule : S.Rule} {body : Parser S (S.Value (S.kind rule))}
      {fuel pos ctx state next} :
      G.fill rule cell state = (.ok body, next) →
        Enters ⟨.delay cell rule, fuel + 1, pos, ctx, state⟩ ⟨body, fuel, pos, ctx, next⟩

/-- The second visit is entered in the course of the first one, or is the first one. -/
abbrev Visits : Visit S T → Visit S T → Prop :=
  Relation.ReflTransGen (G.Enters input)

/-! ## What is visited -/

variable {G input}

theorem RowAt.mem {α : Type} {fuel start pos : Nat} {ctx : Context}
    {parts rest : List (Parser S α)} {state middle : State S T}
    (h : G.RowAt input fuel start ctx parts state rest pos middle) : ∀ p ∈ rest, p ∈ parts := by
  induction h with
  | start => exact fun _ hp => hp
  | next _ _ ih => exact fun p hp => ih p (List.mem_cons_of_mem _ hp)

/-- What is entered is a part of what enters it, or it is used by that and has less fuel. -/
theorem Enters.part_or_less {v w : Visit S T} (h : G.Enters input v w) :
    (w.fuel = v.fuel ∧ w.parser.Part v.parser) ∨
      (w.fuel < v.fuel ∧ G.Uses anyCopy v.parser w.parser) := by
  cases h with
  | count what p => exact .inl ⟨rfl, .count what p⟩
  | tryMap f p => exact .inl ⟨rfl, .tryMap f p⟩
  | zipWithLeft f p q => exact .inl ⟨rfl, .zipWithLeft f p q⟩
  | zipWithRight f p q => exact .inl ⟨rfl, .zipWithRight f p q⟩
  | bindFirst p f => exact .inl ⟨rfl, .bindFirst p f⟩
  | bindNext p f => exact .inl ⟨rfl, .bindNext p f _⟩
  | altLeft p q => exact .inl ⟨rfl, .altLeft p q⟩
  | altRight p q => exact .inl ⟨rfl, .altRight p q⟩
  | label name p => exact .inl ⟨rfl, .label name p⟩
  | commit p => exact .inl ⟨rfl, .commit p⟩
  | look p => exact .inl ⟨rfl, .look p⟩
  | row count part hat =>
      obtain ⟨i, rfl⟩ := (List.mem_ofFn' part _).1 (hat.mem _ List.mem_cons_self)
      exact .inl ⟨rfl, .row count part i⟩
  | many p => exact .inl ⟨rfl, .many p⟩
  | memo parity key p => exact .inl ⟨rfl, .memo _ parity key p⟩
  -- Only a call of a rule takes fuel.
  | ref hdefine => exact .inr ⟨Nat.lt_succ_self _, Uses.itself.rule hdefine⟩
  | copy hfill =>
      obtain ⟨⟨workshop, hcopy⟩, -⟩ := fill_eq_ok hfill
      exact .inr ⟨Nat.lt_succ_self _, Uses.itself.copy trivial hcopy⟩

/-- A visit enters what its parser uses. -/
theorem Enters.uses {v w : Visit S T} (h : G.Enters input v w) :
    G.Uses anyCopy v.parser w.parser := by
  rcases h.part_or_less with ⟨-, hpart⟩ | ⟨-, huses⟩
  · exact .of_part hpart
  · exact huses

theorem Visits.uses {v w : Visit S T} (h : G.Visits input v w) :
    G.Uses anyCopy v.parser w.parser := by
  induction h with
  | refl => exact .itself
  | tail _ henters ih => exact ih.trans henters.uses

end Grammar

end LeftRec
