import LeftRec.Input
import LeftRec.Outcome
import LeftRec.Text.Quoted

/-!
# Reports — failures with the source around them
-/

namespace LeftRec

/-- How many tokens a report shows on each side of a failure, unless told otherwise. -/
def Failure.defaultWidth : Nat := 30

/-- The failure's reason and position, and the source around it. -/
def Failure.report {τ : Type} (failure : Failure) (input : Input τ) (text : τ → String)
    (width : Nat) : String :=
  "Error: " ++ failure.reason.text ++ " in below source code (" ++ toString failure.pos ++
    "): \n" ++ String.join ((input.window failure.pos width).map text) ++ "\n\n"

namespace Outcome

variable {α : Type}

/-- The value of a parse of text, or else the report on its failure. -/
def valueOrReport (text : String) : Outcome α → Except String α
  | .success s => .ok s.value
  | .failure f => .error (f.report (Input.ofText text) Char.toString Failure.defaultWidth)

/-- The failure of a parse of text, or else a remark on its success, with the value as `term` shows
it. -/
def failureOrRemark (text : String) (term : α → String) : Outcome α → Except String Failure
  | .success s => .error ("unexpected success for " ++ Text.quote text ++ ": " ++ term s.value)
  | .failure f => .ok f

end Outcome

end LeftRec
