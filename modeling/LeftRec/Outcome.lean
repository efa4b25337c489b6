import LeftRec.Failure

/-!
# Outcomes — what running a parser at a position yields
-/

namespace LeftRec

/-- A successful parse: its value, the position just after what was consumed, and the keys whose
curtailment it depends on. -/
structure Success (α : Type) where
  value : α
  pos : Nat
  used : Used
  deriving DecidableEq

/-- A success or a failure. -/
inductive Outcome (α : Type)
  | success (s : Success α)
  | failure (f : Failure)
  deriving DecidableEq

namespace Outcome

variable {α β : Type}

/-- A success that depends on no curtailment. -/
def yield (value : α) (pos : Nat) : Outcome α :=
  .success { value, pos, used := ∅ }

/-- A failure that depends on no curtailment. -/
def fail (reason : Reason) (pos : Nat) : Outcome α :=
  .failure { reason, pos, used := ∅ }

def used : Outcome α → Used
  | .success s => s.used
  | .failure f => f.used

/-- Where a success ends, or where a failure is reported. -/
def pos : Outcome α → Nat
  | .success s => s.pos
  | .failure f => f.pos

def isSuccess : Outcome α → Bool
  | .success _ => true
  | .failure _ => false

def map (f : α → β) : Outcome α → Outcome β
  | .success s => .success { s with value := f s.value }
  | .failure e => .failure e

def mapFailure (f : Failure → Failure) : Outcome α → Outcome α
  | .success s => .success s
  | .failure e => .failure (f e)

def withUsed (used : Used) : Outcome α → Outcome α
  | .success s => .success { s with used }
  | .failure f => .failure { f with used }

/-- The outcome of a sequence that began at `start`, from the used set of its first part and the
outcome of its second. -/
def after (start : Nat) (first : Used) (second : Outcome α) : Outcome α :=
  second.withUsed (Used.sequenced start second.pos first second.used)

end Outcome

end LeftRec
