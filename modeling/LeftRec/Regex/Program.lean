import LeftRec.Regex.Node

/-!
# Programs — regular expressions as automata

An expression becomes a list of instructions, each a state of an automaton.  A state that takes a
character or checks a condition goes on to the next instruction; a choice names two, the preferred
one first.

An unbounded repetition of something that may match nothing is entered at its body or passed by,
and decides again only after its body.  Deciding before the body each time would let an empty round
hide the way out.
-/

namespace LeftRec
namespace Regex

/-- A state of the automaton. -/
inductive Instr
  | take (s : CharSet)
  | look (kind : Look) (wide : Bool)
  | save (slot : Nat)
  | split (first second : Nat)
  | jump (target : Nat)
  | done

abbrev Program := Array Instr

/-- Choose between the body of a repetition and the way out. -/
def Instr.choose (greedy : Bool) (body out : Nat) : Instr :=
  if greedy then .split body out else .split out body

namespace Node

/-- Code at an address, repeated. -/
def copies (code : Nat → List Instr) : Nat → Nat → List Instr
  | 0, _ => []
  | count + 1, base =>
      let here := code base
      here ++ copies code count (base + here.length)

/-- Code at an address that may be repeated, each time only after the time before. -/
def optional (code : Nat → List Instr) (greedy : Bool) (out : Nat) : Nat → Nat → List Instr
  | 0, _ => []
  | count + 1, base =>
      let here := code (base + 1)
      .choose greedy (base + 1) out ::
        (here ++ optional code greedy out count (base + 1 + here.length))

/-- The instructions for an expression at an address.  They end by going on after the last. -/
def code : Node → Nat → List Instr
  | .empty, _ => []
  | .set s, _ => [.take s]
  | .look kind wide, _ => [.look kind wide]
  | .group index r, base => .save (2 * index) :: (r.code (base + 1) ++ [.save (2 * index + 1)])
  | .seq r s, base =>
      let first := r.code base
      first ++ s.code (base + first.length)
  | .alt r s, base =>
      let first := r.code (base + 1)
      let second := s.code (base + first.length + 2)
      .split (base + 1) (base + first.length + 2) ::
        (first ++ .jump (base + first.length + 2 + second.length) :: second)
  | .rep least (some most) greedy r, base =>
      let must := copies r.code least base
      let more := most - least
      let base := base + must.length
      must ++ optional r.code greedy (base + more * ((r.code base).length + 1)) more base
  | .rep 0 none greedy r, base =>
      let body := r.code (base + 1)
      let out := base + body.length + 2
      let again := if r.isNullable then .choose greedy (base + 1) out else .jump base
      .choose greedy (base + 1) out :: (body ++ [again])
  | .rep (least + 1) none greedy r, base =>
      let must := copies r.code least base
      let base := base + must.length
      let body := r.code base
      must ++ (body ++ [.choose greedy base (base + body.length + 1)])

/-- The whole automaton of an expression.  The first two slots keep the whole match. -/
def program (r : Node) : Program :=
  (.save 0 :: (r.code 1 ++ [.save 1, .done])).toArray

end Node
end Regex
end LeftRec
