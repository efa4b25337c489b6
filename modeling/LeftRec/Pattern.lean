import LeftRec.Parser
import LeftRec.Regex.Match

/-!
# Patterns — regular expressions as parsers

A pattern stands inside a larger expression that ties it to the start of what it is given, which is
the rest of the input.  It sees nothing before that, so the start of the rest counts as the start of
the text.  A pattern that closes the group around it early has branches that are not tied to the
start; what it consumes always ends where its match ends.
-/

namespace LeftRec

/-- What a pattern matched: the text of the whole and of each group that took part. -/
structure PatternMatch where
  groups : List (Option String)
  deriving DecidableEq

namespace PatternMatch

/-- The text of a group.  Group zero is the whole. -/
def group (m : PatternMatch) (index : Nat) : Option String :=
  (m.groups[index]?).join

/-- The text of the whole match. -/
def full (m : PatternMatch) : String :=
  (m.group 0).getD ""

/-- The matched parts of a text. -/
def ofCaptures (text : List Char) (captures : List (Option (Nat × Nat))) : PatternMatch where
  groups := captures.map fun span =>
    span.map fun (start, stop) => String.ofList ((text.take stop).drop start)

end PatternMatch

namespace Pattern

/-- The expression that ties a pattern to the start. -/
def anchored (source : String) : String :=
  "\\A(?:" ++ source ++ ")"

/-- How many characters a match takes from the start of a text on, and what it matched. -/
def result (text : List Char) (captures : List (Option (Nat × Nat))) : Nat × PatternMatch :=
  ((captures.head?.join.map (·.2)).getD 0, .ofCaptures text captures)

end Pattern

/-- Compile a pattern to a parser by an engine, given how tokens are seen as characters. -/
def patternBy (E : Type) [Regex.Engine E] {S : Signature} (chars : List S.Token → List Char)
    (source name : String) : Build (Parser S PatternMatch) :=
  match (Regex.Engine.compile? (Pattern.anchored source) : Option E) with
  | none => Build.fault .badPattern
  | some e =>
      (Build.note (.compiled name source)).bind fun _ =>
        pure (.scan (fun rest =>
          let text := chars rest
          (Regex.Engine.captures e text).map (Pattern.result text)) name)

/-- Compile a pattern to a parser that runs an automaton. -/
def pattern {S : Signature} (chars : List S.Token → List Char) (source name : String) :
    Build (Parser S PatternMatch) :=
  patternBy Regex.Automaton chars source name

end LeftRec
