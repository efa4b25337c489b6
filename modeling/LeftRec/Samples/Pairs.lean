import LeftRec.Samples.Text

/-!
# Pairs — `E = E E | "a"`

An ambiguous rule that is left-recursive on its own.
-/

namespace LeftRec

/-- A derivation of some letters a. -/
inductive Tree
  | leaf
  | pair (left right : Tree)
  deriving DecidableEq

namespace Tree

/-- The derivation with parentheses around every pair. -/
def text : Tree → String
  | .leaf => "a"
  | .pair left right => "(" ++ left.text ++ " " ++ right.text ++ ")"

/-- The derivation as a term. -/
def term : Tree → String
  | .leaf => "Leaf"
  | .pair left right => "Pair(" ++ left.term ++ ", " ++ right.term ++ ")"

end Tree

namespace Samples

/-- The rule under a given key. -/
def pairsRule (key : Key) : Parser (TextSignature Unit Tree) Tree :=
  let e : Parser (TextSignature Unit Tree) Tree := .ref ()
  .memo (S := TextSignature Unit Tree) () .even key
    (((e + e).map fun (left, right) => Tree.pair left right)
      ||| (Parser.text "a").yielding Tree.leaf)

def pairs : Build (Language (TextSignature Unit Tree) Tree) :=
  Build.freshKey.bind fun key =>
    pure { grammar := { define := fun _ => some (pairsRule key) }, start := .ref () }

end Samples
end LeftRec
