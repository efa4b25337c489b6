import LeftRec.Access
import LeftRec.Build
import LeftRec.Input

/-!
# Parsers — what may be composed

A parser is a tree of combinators with terminals at its leaves.  It names the rules that it refers
to, so left-recursive grammars are finite data.  Running a parser is a matter of its own; this
module holds the trees and the combinators that are made of others.
-/

namespace LeftRec

/-- Which lengths of remaining input make a rule prefer a success that is in the table over a
failure that it has just met. -/
inductive Parity
  /-- Prefer the stored success when an odd number of tokens remains. -/
  | even
  /-- Prefer the stored success when an even number of tokens remains. -/
  | odd
  deriving DecidableEq, Inhabited

def Parity.prefersStored (parity : Parity) (remaining : Nat) : Bool :=
  match parity with
  | .even => remaining % 2 = 1
  | .odd => remaining % 2 = 0

/-! ## The trees -/

/-- A parser that yields values of the given type. -/
inductive Parser (S : Signature) : Type → Type 1
  /-- Succeed with a value, consuming nothing. -/
  | unit {α : Type} (value : α) : Parser S α
  /-- Fail, consuming nothing. -/
  | fail {α : Type} (reason : Reason) : Parser S α
  /-- Consume the given tokens. -/
  | literal (tokens : List S.Token) (name : String) : Parser S (List S.Token)
  /-- Consume one token that satisfies the test. -/
  | token (test : S.Token → Bool) (name : String) : Parser S S.Token
  /-- Consume everything up to and including the first token that satisfies the test. -/
  | find (test : S.Token → Bool) (name : String) : Parser S S.Token
  /-- Consume all the rest of the input. -/
  | all : Parser S (List S.Token)
  /-- Succeed at the end of the input only. -/
  | eof : Parser S Unit
  /-- Consume as many of the remaining tokens as `scan` says. -/
  | scan {α : Type} (scan : List S.Token → Option (Nat × α)) (name : String) : Parser S α
  /-- A parser written by hand: what it does with the table, given the input, the position and the
  context. -/
  | custom {α : Type} (f : Input S.Token → Nat → Context → Access S (Outcome α)) : Parser S α
  /-- Add one to the counter of the given label, then run the parser. -/
  | count {α : Type} (label : String) (p : Parser S α) : Parser S α
  /-- Transform the value, which may be a fault. -/
  | tryMap {α β : Type} (f : α → Except Fault β) (p : Parser S α) : Parser S β
  /-- Run one parser after the other and combine their values. -/
  | zipWith {α β γ : Type} (f : α → β → γ) (p : Parser S α) (q : Parser S β) : Parser S γ
  /-- Run a parser and then the one that its value gives. -/
  | bind {α β : Type} (p : Parser S α) (f : α → Parser S β) : Parser S β
  /-- Run the second parser in place of the first where the first fails without being fatal. -/
  | alt {α : Type} (p q : Parser S α) : Parser S α
  /-- Describe a failure that consumed nothing by a name. -/
  | label {α : Type} (name : String) (p : Parser S α) : Parser S α
  /-- Make every failure fatal. -/
  | commit {α : Type} (p : Parser S α) : Parser S α
  /-- Say whether the parser succeeds, consuming nothing. -/
  | look {α : Type} (p : Parser S α) : Parser S Bool
  /-- Run some parsers one after the other. -/
  | row {α : Type} (count : Nat) (part : Fin count → Parser S α) : Parser S (List α)
  /-- Repeat a parser until it fails or consumes nothing. -/
  | many {α : Type} (p : Parser S α) : Parser S (List α)
  /-- Run a parser at most once at a position under equal conditions, and bound its recursion. -/
  | memo (kind : S.Kind) (parity : Parity) (key : Key) (p : Parser S (S.Value kind)) :
      Parser S (S.Value kind)
  /-- Run a rule as it is defined. -/
  | ref (rule : S.Rule) : Parser S (S.Value (S.kind rule))
  /-- Run a copy of a rule that is built for this cell when it is first run. -/
  | delay (cell : Nat) (rule : S.Rule) : Parser S (S.Value (S.kind rule))

namespace Parser

variable {S : Signature} {α β γ : Type}

/-! ## Terminals made of others -/

/-- Consume nothing. -/
def empty : Parser S Unit :=
  unit ()

/-- Consume any one token. -/
def any : Parser S S.Token :=
  token (fun _ => true) "any input"

/-! ## Values -/

def map (f : α → β) (p : Parser S α) : Parser S β :=
  p.tryMap fun a => .ok (f a)

/-- Yield a value in place of the parser's own. -/
def yielding (p : Parser S α) (value : β) : Parser S β :=
  p.map fun _ => value

/-! ## Sequences -/

/-- Run both, yielding both values. -/
def seq (p : Parser S α) (q : Parser S β) : Parser S (α × β) :=
  zipWith Prod.mk p q

/-- Run both, yielding the first value. -/
def skip (p : Parser S α) (q : Parser S β) : Parser S α :=
  zipWith (fun a _ => a) p q

/-- Run both, yielding the second value. -/
def next (p : Parser S α) (q : Parser S β) : Parser S β :=
  zipWith (fun _ b => b) p q

/-- Apply the function that `p` yields to the value of `q`. -/
def app (p : Parser S (α → β)) (q : Parser S α) : Parser S β :=
  zipWith (fun f a => f a) p q

/-- Apply the function that `q` yields to the value of `p`. -/
def ap (p : Parser S α) (q : Parser S (α → β)) : Parser S β :=
  zipWith (fun a f => f a) p q

/-- Run `before`, `p` and `after`, yielding the value of `p`. -/
def wrap (p : Parser S α) (before : Parser S β) (after : Parser S γ) : Parser S α :=
  (before.next p).skip after

def trim (p : Parser S α) (around : Parser S β) : Parser S α :=
  p.wrap around around

/-- Run some parsers one after the other, yielding their values. -/
def sequence (ps : List (Parser S α)) : Parser S (List α) :=
  row ps.length fun i => ps[i]

/-! ## Choice and repetition -/

/-- Yield a value where the parser fails without being fatal. -/
def fallback (p : Parser S α) (value : α) : Parser S α :=
  p.alt (unit value)

/-- Repeat a parser at least once. -/
def many1 (p : Parser S α) : Parser S (List α) :=
  zipWith (· :: ·) p p.many

/-- A parser and a separator that may follow it. -/
def separated (p : Parser S α) (separator : Parser S β) : Parser S α :=
  p.skip ((separator.yielding ()).alt empty)

/-- Repeat a parser with a separator that may follow each time. -/
def sepBy (p : Parser S α) (separator : Parser S β) : Parser S (List α) :=
  (p.separated separator).many

/-- Repeat a parser at least once with a separator that may follow each time. -/
def sepBy1 (p : Parser S α) (separator : Parser S β) : Parser S (List α) :=
  (p.separated separator).many1

/-- Require the end of the input after a parser. -/
def complete (p : Parser S α) : Parser S α :=
  p.skip eof

instance : HAdd (Parser S α) (Parser S β) (Parser S (α × β)) := ⟨seq⟩

instance : OrOp (Parser S α) := ⟨alt⟩

end Parser

/-! ## Grammars -/

/-- The rules that parsers refer to: those defined once and for all, and how to build a copy of
one. -/
structure Grammar (S : Signature) where
  define : (rule : S.Rule) → Option (Parser S (S.Value (S.kind rule)))
  copy : (rule : S.Rule) → Build (Parser S (S.Value (S.kind rule))) :=
    fun _ => Build.fault .undefinedRule

/-- A grammar and the parser to start with. -/
structure Language (S : Signature) (α : Type) where
  grammar : Grammar S
  start : Parser S α

end LeftRec
