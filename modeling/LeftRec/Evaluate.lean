import LeftRec.Memoize

/-!
# Evaluating parsers

A parser is evaluated by recursion on its tree, given a way to call rules.  Calling a rule
evaluates its definition with one unit of fuel less, so evaluation ends whatever the grammar; a
grammar that keeps calling rules without end uses the fuel up.  The same fuel bounds the rounds of
a repetition.
-/

namespace LeftRec

variable {S : Signature} {T : Type → Type} {α : Type}

/-- How to call a rule: as it is defined, or as the copy of a cell. -/
abbrev Caller (S : Signature) (T : Type → Type) : Type :=
  (rule : S.Rule) → Option Nat → Run S T (S.Value (S.kind rule))

/-- What a parser does, given the fuel for repetitions and a way to call rules. -/
def Parser.eval [MemoTable T] (input : Input S.Token) (rounds : Nat) (call : Caller S T) :
    {α : Type} → Parser S α → Run S T α
  | _, .unit value => fun pos _ => pure (.yield value pos)
  | _, .fail reason => fun pos _ => pure (.fail reason pos)
  | _, .literal tokens name => Run.literal input tokens name
  | _, .token test name => Run.token input test name
  | _, .find test name => Run.find input test name
  | _, .all => Run.all input
  | _, .eof => Run.eof input
  | _, .scan f name => Run.scan input f name
  | _, .custom f => Run.custom input f
  | _, .count what p => Run.count what (p.eval input rounds call)
  | _, .tryMap f p => Run.tryMap f (p.eval input rounds call)
  | _, .zipWith f p q => Run.zipWith f (p.eval input rounds call) (q.eval input rounds call)
  | _, .bind p f => Run.bind (p.eval input rounds call) fun a => (f a).eval input rounds call
  | _, .alt p q => Run.alt (p.eval input rounds call) (q.eval input rounds call)
  | _, .label name p => Run.label name (p.eval input rounds call)
  | _, .commit p => Run.commit (p.eval input rounds call)
  | _, .look p => Run.look (p.eval input rounds call)
  | _, .row _ part => Run.row (List.ofFn fun i => (part i).eval input rounds call)
  | _, .many p => Run.many rounds (p.eval input rounds call)
  | _, .memo kind parity key p => Run.memo input kind parity key (p.eval input rounds call)
  | _, .ref rule => call rule none
  | _, .delay cell rule => call rule (some cell)

namespace Grammar

/-- The parser of a cell, built now from the present supply if it was never run before. -/
def fill (G : Grammar S) (rule : S.Rule) (cell : Nat) (state : State S T) :
    Except Fault (Parser S (S.Value (S.kind rule))) × State S T :=
  match state.cells.lookup cell with
  | some supply => ((G.copy rule).fromSupply supply, state)
  | none =>
      match G.copy rule state.workshop with
      | (.ok p, workshop) =>
          (.ok p, { state with workshop, cells := (cell, state.workshop.supply) :: state.cells })
      | (.error fault, workshop) => (.error fault, { state with workshop })

/-- Run a parser whose rules are those of a grammar, with so much fuel. -/
def run [MemoTable T] (G : Grammar S) (input : Input S.Token) :
    Nat → {α : Type} → Parser S α → Run S T α
  | 0, _, _ => fun _ _ => Eval.exhausted
  | fuel + 1, _, p =>
      p.eval input fuel fun rule cell pos ctx =>
        match cell with
        | none =>
            match G.define rule with
            | none => Eval.fault .undefinedRule
            | some body => G.run input fuel body pos ctx
        | some cell => fun state =>
            match G.fill rule cell state with
            | (.error fault, next) => .stopped fault next
            | (.ok body, next) => G.run input fuel body pos ctx next

/-- More fuel than any machine could use up.  Calls of memoized rules nest about as deeply as the
square of the number of tokens times the number of rules, far less than this for 2^32 tokens. -/
def ampleFuel : Nat := 0x100000000000000000000000000000000

end Grammar

end LeftRec
