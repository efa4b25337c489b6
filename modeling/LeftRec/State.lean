import LeftRec.Build
import LeftRec.Eval
import LeftRec.Memo.Table
import LeftRec.Signature

/-!
# The state of a parse

While parsers run they share the memo table, the workshop that builds late copies of rules, the
cells that say from which supply a late copy was built, and counters.
-/

namespace LeftRec

/-- The state that all parsers of a run share. -/
structure State (S : Signature) (T : Type → Type) where
  memo : T (Entry S)
  workshop : Workshop
  /-- For every cell that was filled, the supply from which its parser was built. -/
  cells : List (Nat × Supply)
  /-- How often the parser of each label was run. -/
  counts : List (String × Nat)

namespace State

variable {S : Signature} {T : Type → Type} [MemoTable T]

/-- The state before anything ran. -/
def new : State S T :=
  { memo := MemoTable.empty, workshop := .new, cells := [], counts := [] }

def note (state : State S T) (event : Event) : State S T :=
  { state with workshop := state.workshop.note event }

/-- The stored outcome of a rule at a position and its context.  An entry of another kind counts
as none. -/
def lookup (state : State S T) (kind : S.Kind) (key : Key) (pos : Nat) :
    Option (Outcome (S.Value kind) × Context) :=
  (MemoTable.get? state.memo (key, pos)).bind fun entry =>
    (entry.outcome? kind).map (·, entry.context)

def store (state : State S T) (key : Key) (pos : Nat) (entry : Entry S) : State S T :=
  { state with memo := MemoTable.insert state.memo (key, pos) entry }

def clear (state : State S T) : State S T :=
  { state with memo := MemoTable.empty }

/-- Add one to a counter. -/
def tally (label : String) : List (String × Nat) → List (String × Nat)
  | [] => [(label, 1)]
  | (other, n) :: rest =>
      if other = label then (other, n + 1) :: rest else (other, n) :: tally label rest

def count (state : State S T) (label : String) : State S T :=
  { state with counts := tally label state.counts }

/-- The events so far, in order. -/
def log (state : State S T) : List Event :=
  state.workshop.log.reverse

end State

end LeftRec
