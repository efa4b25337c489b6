import LeftRec.Blueprint.Basic
import LeftRec.Session

/-!
# Declarations — a rule that is declared first and defined later

Handles to a declared rule may be used before it has a definition.  It gets one definition; running
it earlier, or defining it again, is a fault.
-/

namespace LeftRec
namespace Blueprint

variable {τ : Type} [DecidableEq τ]

/-- A declared rule with its definition, once it has one. -/
structure Declaration (τ : Type) [DecidableEq τ] where
  definition : Option (Plain τ)

namespace Declaration

def new : Declaration τ :=
  { definition := none }

def isDefined (d : Declaration τ) : Bool :=
  d.definition.isSome

def describe (d : Declaration τ) : String :=
  "Declared \x7b defined: " ++ toString d.isDefined ++ " \x7d"

/-- Give the rule its definition. -/
def define (d : Declaration τ) (p : Plain τ) : Except Fault (Declaration τ) :=
  if d.isDefined then .error .redefinedRule else .ok { definition := some p }

/-- The language of the rule. -/
def language (d : Declaration τ) : Language (signature τ) Datum where
  grammar := { define := fun _ => d.definition }
  start := .ref (S := signature τ) ""

/-! ## Steps -/

/-- What one may do with a declared rule. -/
inductive Step (τ : Type)
  | isDefined
  | describe
  | define (p : Blueprint τ)
  /-- Parse all of an input by the rule. -/
  | run (input : Input τ)

/-- What a step answers. -/
inductive Answer
  | flag (b : Bool)
  | report (text : String)
  | nothing
  | outcome (o : Outcome Datum)

variable [Medium τ] {T : Type → Type} [MemoTable T]

/-- Take one step.  It leaves the rule and the state, and answers unless a fault stops it. -/
def perform (d : Declaration τ) (state : State (signature τ) T) :
    Step τ → Declaration τ × Result (State (signature τ) T) Answer
  | .isDefined => (d, .done (.flag d.isDefined) state)
  | .describe => (d, .done (.report d.describe) state)
  | .define p =>
      match build p state.workshop with
      | (.error fault, workshop) => (d, .stopped fault { state with workshop })
      | (.ok p, workshop) =>
          match d.define p with
          | .error fault => (d, .stopped fault { state with workshop })
          | .ok d => (d, .done .nothing { state with workshop })
  | .run input => (d, (Answer.outcome <$> d.language.parse input true) state)

/-- The results of some steps, each taken where the one before it left off, even if that one was
stopped. -/
def performAll (d : Declaration τ) (state : State (signature τ) T) :
    List (Step τ) → List (Result (State (signature τ) T) Answer)
  | [] => []
  | step :: rest =>
      let (d, result) := d.perform state step
      result :: d.performAll (result.state?.getD state) rest

end Declaration
end Blueprint
end LeftRec
