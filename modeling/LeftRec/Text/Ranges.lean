/-!
# Ranges of characters

A property of characters is given by the inclusive ranges of code points that have it.
-/

namespace LeftRec

/-- Inclusive ranges of code points. -/
abbrev Ranges := List (Nat × Nat)

/-- Whether a character lies in one of the ranges. -/
def Ranges.contains (ranges : Ranges) (c : Char) : Bool :=
  ranges.any fun (low, high) => low ≤ c.toNat && c.toNat ≤ high

end LeftRec
