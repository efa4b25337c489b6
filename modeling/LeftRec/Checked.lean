import LeftRec.Fault

/-!
# Checked arithmetic

Integers of 64 bits.  A result that does not fit stops the computation with a fault that names the
operation, and so does a division by zero.
-/

namespace LeftRec
namespace Checked

/-- Whether an integer has a two's complement form of 64 bits. -/
def Fits (n : Int) : Prop :=
  -0x8000000000000000 ≤ n ∧ n < 0x8000000000000000

instance (n : Int) : Decidable (Fits n) :=
  inferInstanceAs (Decidable (_ ∧ _))

/-- A result of an operation, if it fits. -/
def result (operation : Arithmetic) (n : Int) : Except Fault Int :=
  if Fits n then .ok n else .error (.overflow operation)

def add (m n : Int) : Except Fault Int :=
  result .add (m + n)

def subtract (m n : Int) : Except Fault Int :=
  result .subtract (m - n)

def multiply (m n : Int) : Except Fault Int :=
  result .multiply (m * n)

/-- The quotient, rounded toward zero. -/
def divide (m n : Int) : Except Fault Int :=
  if n = 0 then .error .divisionByZero else result .divide (m.tdiv n)

end Checked
end LeftRec
