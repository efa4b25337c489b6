import LeftRec.Key
import LeftRec.Text.Quoted

/-!
# Events — what a parse notes down as it goes

Memoized rules note when they answer from the table, when they are curtailed and when a derivation
has grown.  Whole parses note how they ended, and patterns that they were compiled.
-/

namespace LeftRec

/-- A key as it is written in a report. -/
def Key.describe : Key → String
  | .id n => "Id(" ++ toString n ++ ")"
  | .name s => "Name(" ++ Text.quote s ++ ")"

/-- How much detail an event belongs to. -/
inductive Level
  | trace
  | debug
  deriving DecidableEq

def Level.tag : Level → String
  | .trace => "TRACE"
  | .debug => "DEBUG"

/-- Something that a parse noted down. -/
inductive Event
  /-- A rule's stored outcome was taken. -/
  | hit (key : Key) (pos : Nat)
  /-- A rule had recursed too deeply. -/
  | curtailed (key : Key) (pos depth : Nat)
  /-- A stored success reached further than the one just found. -/
  | grew (key : Key) (pos fresh stored : Nat)
  | succeeded (pos extent entries : Nat)
  | failed (pos extent entries : Nat) (reason : String)
  | compiled (name pattern : String)
  deriving DecidableEq

namespace Event

def level : Event → Level
  | .hit .. | .curtailed .. | .grew .. => .trace
  | .succeeded .. | .failed .. | .compiled .. => .debug

def message : Event → String
  | .hit key pos => "memo hit for " ++ key.describe ++ " at " ++ toString pos
  | .curtailed key pos depth =>
      "curtailing " ++ key.describe ++ " at " ++ toString pos ++ ", depth " ++ toString depth
  | .grew key pos fresh stored =>
      key.describe ++ " at " ++ toString pos ++ " grew from " ++ toString fresh ++ " to " ++
        toString stored
  | .succeeded pos extent entries =>
      "parse succeeded, ending at " ++ toString pos ++ " of " ++ toString extent ++ ", with " ++
        toString entries ++ " memo entries"
  | .failed pos extent entries reason =>
      "parse failed at " ++ toString pos ++ " of " ++ toString extent ++ ", with " ++
        toString entries ++ " memo entries: " ++ reason
  | .compiled name pattern =>
      "compiled pattern for " ++ Text.quote name ++ ": \\A(?:" ++ pattern ++ ")"

/-- The event as a line of a log. -/
def line (event : Event) : String :=
  event.level.tag ++ " " ++ event.message

end Event

end LeftRec
