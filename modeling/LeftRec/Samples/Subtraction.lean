import LeftRec.Samples.Text

/-!
# Subtraction — `E = E "-" N | N`

Differences associate to the left because the rule is left-recursive.  The rule comes in two forms:
defined once under a fresh key, and as copies that are built on the way down and share a name.
-/

namespace LeftRec
namespace Samples

/-- The signature of grammars with one rule, which yields integers. -/
abbrev IntRule : Signature := TextSignature Unit Int

/-- The body of the rule, given how it refers to itself. -/
def differences (e : Parser IntRule Int) : Parser IntRule Int :=
  (((e.skip (.text "-")).seq Parser.number).tryMap fun (a, b) => Checked.subtract a b)
    ||| Parser.number

def subtractionRule (parity : Parity) (key : Key) : Parser IntRule Int :=
  .memo (S := IntRule) () parity key (differences (.ref (S := IntRule) ()))

def subtraction (parity : Parity) : Build (Language IntRule Int) :=
  Build.freshKey.bind fun key =>
    pure
      { grammar := { define := fun _ => some (subtractionRule parity key) }
        start := .ref (S := IntRule) () }

/-- One copy of the rule, which refers to a further copy. -/
def subtractionCopy : Build (Parser IntRule Int) :=
  Build.freshCell.bind fun cell =>
    pure (.memo (S := IntRule) () .even (.name "subtraction_by_name")
      (differences (.delay (S := IntRule) cell ())))

def subtractionByName : Build (Language IntRule Int) :=
  subtractionCopy.bind fun start =>
    pure { grammar := { define := fun _ => none, copy := fun _ => subtractionCopy }, start }

end Samples
end LeftRec
