import LeftRec.Regex.Node

/-!
# Semantics — what an expression matches

A match leads from one place of a text to another, and saves where the groups begin and end on the
way.  What an expression matches is told by recursion on the expression, without saying how a match
is found or which of several is preferred.
-/

namespace LeftRec
namespace Regex

/-! ## Places -/

/-- The saved places, by slot. -/
abbrev Slots := List (Option Nat)

/-- Whether a condition holds between two characters, of which either may be missing. -/
def Look.holds (kind : Look) (wide : Bool) (before after : Option Char) : Bool :=
  let inWord := (if wide then CharSet.word else CharSet.asciiWord).contains
  let left := before.any inWord
  let right := after.any inWord
  match kind with
  | .textStart => before.isNone
  | .textEnd => after.isNone
  | .lineStart => before.all (· == '\n')
  | .lineEnd => after.all (· == '\n')
  | .lineStartReturn => before.all fun c => c == '\n' || (c == '\r' && after != some '\n')
  | .lineEndReturn => after.all fun c => c == '\r' || (c == '\n' && before != some '\r')
  | .boundary => left != right
  | .noBoundary => left == right
  | .wordStart => !left && right
  | .wordEnd => left && !right
  | .halfStart => !left
  | .halfEnd => !right

/-- Whether a condition holds at a place of a text. -/
def Look.HoldsAt (kind : Look) (wide : Bool) (text : List Char) (place : Nat) : Prop :=
  kind.holds wide (text.take place).getLast? text[place]? = true

/-- A place of a text, with the places saved on the way to it. -/
structure Spot where
  place : Nat
  slots : Slots

/-- Behind the next character. -/
def Spot.next (a : Spot) : Spot :=
  { a with place := a.place + 1 }

/-- With the place saved in a slot. -/
def Spot.save (a : Spot) (slot : Nat) : Spot :=
  { a with slots := a.slots.set slot (some a.place) }

/-! ## Matches -/

/-- A relation so many times in a row. -/
def Iterated (R : Spot → Spot → Prop) : Nat → Spot → Spot → Prop
  | 0, a, b => a = b
  | count + 1, a, c => ∃ b, R a b ∧ Iterated R count b c

/-- Whether so many repetitions are enough and not too many. -/
def IsBetween (least : Nat) (most : Option Nat) (count : Nat) : Prop :=
  least ≤ count ∧ ∀ m ∈ most, count ≤ max least m

/-- Whether an expression matches from one spot of a text to another. -/
def Node.Matches (text : List Char) : Node → Spot → Spot → Prop
  | .empty, a, b => a = b
  | .set s, a, b => (∃ c, text[a.place]? = some c ∧ s.contains c) ∧ b = a.next
  | .look kind wide, a, b => kind.HoldsAt wide text a.place ∧ a = b
  | .group index r, a, c =>
      ∃ b, r.Matches text (a.save (2 * index)) b ∧ c = b.save (2 * index + 1)
  | .seq r s, a, c => ∃ b, r.Matches text a b ∧ s.Matches text b c
  | .alt r s, a, b => r.Matches text a b ∨ s.Matches text a b
  | .rep least most _ r, a, b =>
      ∃ count, IsBetween least most count ∧ Iterated (r.Matches text) count a b

/-! ## Matches in a text -/

/-- Pair up the first and the last place of each group. -/
def pairUp : Slots → List (Option (Nat × Nat))
  | start :: stop :: rest => (start.bind fun i => stop.map fun j => (i, j)) :: pairUp rest
  | _ => []

/-- Nothing is saved yet of so many groups and of the match itself. -/
def unsaved (groups : Nat) : Slots :=
  List.replicate (2 * (groups + 1)) none

/-- Whether an expression matches somewhere in a text, with the match itself as group zero, and what
the groups took part with. -/
def Node.Finds (r : Node) (text : List Char) (captures : List (Option (Nat × Nat))) : Prop :=
  ∃ start b, start ≤ text.length ∧
    (Node.group 0 r).Matches text ⟨start, unsaved r.groups⟩ b ∧ captures = pairUp b.slots

end Regex
end LeftRec
