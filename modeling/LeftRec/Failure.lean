import LeftRec.Used
import LeftRec.Expectation

/-!
# Failures — why and where a parse failed

A failure has a reason, the position that it is reported at, and the keys whose curtailment it
depends on.  Two alternatives that both failed at one place are merged into one failure: a fatal
one wins, otherwise the one that got further, and a tie joins what was expected.
-/

namespace LeftRec

/-! ## Reasons -/

/-- Why a parse failed. -/
inductive Reason
  /-- Something else was expected. -/
  | expected (what : Expectation)
  /-- A failure that no alternative may step back over. -/
  | fatal (text : String)
  /-- A rule recursed more deeply than the rest of the input could support. -/
  | curtailment
  /-- A failure that the grammar's author described. -/
  | stated (text : String)
  deriving DecidableEq, Inhabited

namespace Reason

def expecting (what : String) : Reason :=
  .expected (.one what)

def isFatal : Reason → Bool
  | .fatal _ => true
  | _ => false

def text : Reason → String
  | .expected what => what.message
  | .fatal text => text
  | .curtailment => "Curtailment"
  | .stated text => text

/-- The fatal failure with the same text. -/
def toFatal (reason : Reason) : Reason :=
  .fatal reason.text

/-- The reason to report for two alternatives that got equally far. -/
def mergeTied : Reason → Reason → Reason
  | .fatal text, _ => .fatal text
  | .expected first, .expected second => .expected (first.extend second.items)
  | _, second => second

end Reason

/-! ## Failures -/

/-- A failed parse. -/
structure Failure where
  reason : Reason
  pos : Nat
  used : Used
  deriving DecidableEq, Inhabited

namespace Failure

def isFatal (f : Failure) : Bool :=
  f.reason.isFatal

/-- The failure to report when `first` and then `second` failed from one start. -/
def merge (first second : Failure) : Failure :=
  let used := first.used.union second.used
  if first.isFatal then { first with used }
  else if second.isFatal || first.pos < second.pos then { second with used }
  else if second.pos < first.pos then { first with used }
  else { reason := first.reason.mergeTied second.reason, pos := second.pos, used }

def text (f : Failure) : String :=
  f.reason.text ++ " (at position " ++ toString f.pos ++ ")"

end Failure

end LeftRec
