import LeftRec.Regex.Reader
import LeftRec.Regex.Semantics

/-!
# Engines — what compiles expressions and finds matches

What a pattern needs of an engine is that it compiles the text of an expression and finds a match in
a text.  The class says what these operations are, and its laws tie them to the syntax and to the
semantics of expressions.  Of two matches the laws do not say which one is found, so what follows
from them holds whatever an engine prefers.
-/

namespace LeftRec
namespace Regex

/-- The operations of an engine, of which `E` are the compiled expressions. -/
class Engine (E : Type) where
  /-- Compile the expression that a text stands for. -/
  compile? (source : String) : Option E
  /-- Find a match in a text: where it is, and then where each group is, if it took part. -/
  captures (e : E) (text : List Char) : Option (List (Option (Nat × Nat)))

/-- How many states the automaton of an expression has, roughly. -/
def Node.weight : Node → Nat
  | .empty => 0
  | .set _ | .look .. => 1
  | .group _ r => r.weight + 2
  | .seq r s => r.weight + s.weight
  | .alt r s => r.weight + s.weight + 1
  | .rep least most _ r => (r.weight + 1) * max 1 (most.getD (least + 1))

/-- An automaton with more states than this may be refused. -/
def weightLimit : Nat := 0x50000

/-- Expressions are compiled, nothing else is, and a match is found where and only where the
expression has one. -/
class LawfulEngine (E : Type) [Engine E] : Prop where
  isSome_parse? {source : String} {e : E} (h : Engine.compile? source = some e) :
    (parse? source).isSome
  isSome_compile? {source : String} {r : Node} (h : parse? source = some r)
    (hweight : r.weight ≤ weightLimit) : (Engine.compile? source : Option E).isSome
  /-- What is found is a match. -/
  finds_of_captures {source : String} {r : Node} {e : E} {text : List Char}
    {captures : List (Option (Nat × Nat))} (hparse : parse? source = some r)
    (hcompile : Engine.compile? source = some e)
    (h : Engine.captures e text = some captures) : r.Finds text captures
  /-- Where there is a match, one is found. -/
  isSome_captures {source : String} {r : Node} {e : E} {text : List Char}
    {captures : List (Option (Nat × Nat))} (hparse : parse? source = some r)
    (hcompile : Engine.compile? source = some e) (h : r.Finds text captures) :
    (Engine.captures e text).isSome

end Regex
end LeftRec
