import LeftRec.Context
import LeftRec.Outcome

/-!
# Signatures — what a family of grammars is about

A signature names the tokens that are parsed, the rules that parsers may refer to, and the kinds of
values that rules yield.  The memo table is shared by rules of different kinds, so an entry carries
the kind of the outcome that it holds.
-/

namespace LeftRec

/-- The tokens, value kinds and rule names of a family of grammars. -/
structure Signature where
  Token : Type
  Kind : Type
  Value : Kind → Type
  Rule : Type
  /-- The kind of value that a rule yields. -/
  kind : Rule → Kind
  [tokenEq : DecidableEq Token]
  [kindEq : DecidableEq Kind]

attribute [instance] Signature.tokenEq Signature.kindEq

/-- Rules over `τ` that all yield values of one type. -/
def Signature.uniform (τ ρ α : Type) [DecidableEq τ] : Signature where
  Token := τ
  Kind := Unit
  Value _ := α
  Rule := ρ
  kind _ := ()

/-- What the memo table holds for a rule at a position: the outcome found there last, and the
context that it depends on. -/
structure Entry (S : Signature) where
  kind : S.Kind
  outcome : Outcome (S.Value kind)
  context : Context

/-- The outcome, if it is of the given kind. -/
def Entry.outcome? {S : Signature} (entry : Entry S) (kind : S.Kind) :
    Option (Outcome (S.Value kind)) :=
  if h : entry.kind = kind then some (h ▸ entry.outcome) else none

@[simp]
theorem Entry.outcome?_self {S : Signature} (entry : Entry S) :
    entry.outcome? entry.kind = some entry.outcome := by
  simp [Entry.outcome?]

end LeftRec
