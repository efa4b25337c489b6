import LeftRec.Samples.Text

/-!
# Counting — how often a left-recursive body runs

Rules whose bodies count their runs under one label, and a rule whose longest derivation leaves
nothing for what follows it.
-/

namespace LeftRec
namespace Samples

abbrev NatRule : Signature := TextSignature Unit Nat

abbrev UnitRule : Signature := TextSignature Unit Unit

/-- The label that runs are counted under. -/
def runsLabel : String := "runs"

/-- `S "x" | "x"`, which yields the number of letters x. -/
def selfRecursionBody : Parser NatRule Nat :=
  let s : Parser NatRule Nat := .ref (S := NatRule) ()
  .count runsLabel (((s.skip (Parser.text "x")).map (· + 1)) ||| (Parser.text "x").yielding 1)

/-- The rule `S = S "x" | "x"`. -/
def selfRecursionRule (key : Key) : Parser NatRule Nat :=
  .memo (S := NatRule) () .even key selfRecursionBody

def selfRecursion : Build (Language NatRule Nat) :=
  Build.freshKey.bind fun key =>
    pure
      { grammar := { define := fun _ => some (selfRecursionRule key) }
        start := .ref (S := NatRule) () }

/-- The rule `S = S`, which can only be curtailed. -/
def onlyRecursionRule (parity : Parity) (key : Key) : Parser UnitRule Unit :=
  .memo (S := UnitRule) () parity key (.count runsLabel (.ref (S := UnitRule) ()))

def onlyRecursion (parity : Parity) : Build (Language UnitRule Unit) :=
  Build.freshKey.bind fun key =>
    pure
      { grammar := { define := fun _ => some (onlyRecursionRule parity key) }
        start := .ref (S := UnitRule) () }

/-- The rule `A = A "x" | "a"`, which yields the number of letters x. -/
def greedyRule (key : Key) : Parser NatRule Nat :=
  let a : Parser NatRule Nat := .ref (S := NatRule) ()
  .memo (S := NatRule) () .even key
    (((a.skip (Parser.text "x")).map (· + 1)) ||| (Parser.text "a").yielding 0)

/-- `A "x"`, which accepts nothing, since A takes every x. -/
def greedy : Build (Language NatRule Nat) :=
  Build.freshKey.bind fun key =>
    let a : Parser NatRule Nat := .ref (S := NatRule) ()
    pure
      { grammar := { define := fun _ => some (greedyRule key) }
        start := (a.skip (Parser.text "x")).map (· + 1) }

end Samples
end LeftRec
