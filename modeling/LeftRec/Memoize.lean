import LeftRec.Run

/-!
# Memoization — left recursion within bounds

A memoized rule answers from the table where it can.  Otherwise it runs one level deeper, unless it
has already recursed more often at its position than the rest of the input has tokens, plus one: no
deeper derivation could consume anything more, so the rule is curtailed there.

When the deepest level is curtailed, each level around it has the one inside in the table, and so
grows the derivation by a step.  A level that finds less than the table holds hands the stored
success on, so the outermost level yields the longest derivation.
-/

namespace LeftRec
namespace Run

variable {S : Signature} {T : Type → Type} {α : Type}

/-- The depth beyond which a rule is curtailed, with so many tokens remaining. -/
def depthBound (remaining : Nat) : Nat :=
  min (remaining + 1) Context.depthLimit

/-- One level deeper in the recursion of a rule. -/
def deepen (ctx : Context) (key : Key) : Except Fault Context :=
  let depth := ctx.depth key + 1
  if depth ≤ Context.depthLimit then .ok (ctx.withDepth key depth) else .error (.overflow .add)

/-- The stored success to take in place of a fresh outcome, if any.  A failure gives way to a
success that may be reused here when the parity selects the length of the rest, and a success gives
way to one that reaches further. -/
def preferred (parity : Parity) (remaining : Nat) (ctx : Context) :
    Outcome α → Option (Outcome α × Context) → Option (Success α)
  | .failure _, some (.success stored, under) =>
      if parity.prefersStored remaining && ctx.canReuse under then some stored else none
  | .success fresh, some (.success stored, _) =>
      if fresh.pos < stored.pos then some stored else none
  | _, _ => none

/-- The outcome to keep, and what there is to note about it. -/
def settle (key : Key) (pos : Nat) (fresh : Outcome α) :
    Option (Success α) → Outcome α × Option Event
  | none => (fresh, none)
  | some stored =>
      (.success stored,
        match fresh with
        | .success s => some (.grew key pos s.pos stored.pos)
        | .failure _ => none)

/-- Run the body of a rule one level deeper, and store the outcome that is kept. -/
def refresh [MemoTable T] (input : Input S.Token) (kind : S.Kind) (parity : Parity) (key : Key)
    (body : Run S T (S.Value kind)) : Run S T (S.Value kind) := fun pos ctx => do
  let fresh ← body pos (← Eval.ofExcept (deepen ctx key))
  let stored ← Eval.read (·.lookup kind key pos)
  let (kept, event) := settle key pos fresh
    (preferred parity (input.remaining pos) ctx fresh stored)
  Eval.change fun state => event.elim state state.note
  Eval.change (·.store key pos { kind, outcome := kept, context := ctx.pruned kept.used })
  pure kept

def memo [MemoTable T] (input : Input S.Token) (kind : S.Kind) (parity : Parity) (key : Key)
    (body : Run S T (S.Value kind)) : Run S T (S.Value kind) := fun pos ctx => do
  let stored ← Eval.read (·.lookup kind key pos)
  match stored.filter fun (_, under) => ctx.canReuse under with
  | some (outcome, _) =>
      Eval.change (·.note (.hit key pos))
      pure outcome
  | none =>
      if depthBound (input.remaining pos) < ctx.depth key then
        Eval.change (·.note (.curtailed key pos (ctx.depth key)))
        pure (.failure { reason := .curtailment, pos, used := .single key })
      else refresh input kind parity key body pos ctx

end Run
end LeftRec
