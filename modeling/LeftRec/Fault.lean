/-!
# Faults — what stops a computation for good

A fault is a defect of a grammar or an arithmetic limit.  It is no failed parse: no alternative
is tried, and the whole computation ends.
-/

namespace LeftRec

/-- The arithmetic operations that are checked. -/
inductive Arithmetic
  | add
  | subtract
  | multiply
  | divide
  deriving DecidableEq

def Arithmetic.verb : Arithmetic → String
  | .add => "add"
  | .subtract => "subtract"
  | .multiply => "multiply"
  | .divide => "divide"

/-- What stopped a computation. -/
inductive Fault
  /-- A rule was run that has no definition yet. -/
  | undefinedRule
  /-- A rule was given a second definition. -/
  | redefinedRule
  /-- A result does not fit its range. -/
  | overflow (operation : Arithmetic)
  | divisionByZero
  /-- The text of a pattern is no regular expression. -/
  | badPattern
  deriving DecidableEq

def Fault.message : Fault → String
  | .undefinedRule => "declared parser run before being defined"
  | .redefinedRule => "declared parser defined twice"
  | .overflow operation => "attempt to " ++ operation.verb ++ " with overflow"
  | .divisionByZero => "attempt to divide by zero"
  | .badPattern => "invalid regular expression"

end LeftRec
