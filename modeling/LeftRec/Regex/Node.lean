import LeftRec.Regex.CharSet

/-!
# The trees of regular expressions
-/

namespace LeftRec
namespace Regex

/-- A condition on what stands before and after a place. -/
inductive Look
  | textStart
  | textEnd
  | lineStart
  | lineEnd
  /-- As `lineStart`, with carriage returns ending lines too. -/
  | lineStartReturn
  | lineEndReturn
  /-- A word begins or ends. -/
  | boundary
  | noBoundary
  | wordStart
  | wordEnd
  /-- What stands before is no part of a word. -/
  | halfStart
  /-- What stands after is no part of a word. -/
  | halfEnd
  deriving DecidableEq

/-- A regular expression. -/
inductive Node
  | empty
  | set (s : CharSet)
  /-- A condition; `wide` words are those of all scripts. -/
  | look (kind : Look) (wide : Bool)
  /-- A group whose match is kept under a number. -/
  | group (index : Nat) (r : Node)
  | seq (r s : Node)
  | alt (r s : Node)
  /-- From `least` to `most` repetitions, as many as possible if `greedy`. -/
  | rep (least : Nat) (most : Option Nat) (greedy : Bool) (r : Node)

namespace Node

/-- Whether every match is empty. -/
def isHollow : Node → Bool
  | .empty | .look .. => true
  | .set _ => false
  | .group _ r => r.isHollow
  | .seq r s | .alt r s => r.isHollow && s.isHollow
  | .rep _ most _ r => r.isHollow || most == some 0

/-- Whether a match may be empty. -/
def isNullable : Node → Bool
  | .empty | .look .. => true
  | .set _ => false
  | .group _ r => r.isNullable
  | .seq r s => r.isNullable && s.isNullable
  | .alt r s => r.isNullable || s.isNullable
  | .rep least _ _ r => least == 0 || r.isNullable

/-- The largest number of a group. -/
def groups : Node → Nat
  | .empty | .set _ | .look .. => 0
  | .group index r => max index r.groups
  | .seq r s | .alt r s => max r.groups s.groups
  | .rep _ _ _ r => r.groups

/-- A repetition in its simplest form.  What can only match nothing need not be repeated, no
repetitions match nothing, and one is the expression itself. -/
def repeated (least : Nat) (most : Option Nat) (greedy : Bool) (r : Node) : Node :=
  let (least, most) :=
    if r.isHollow then (min least 1, some ((most.getD 1).min 1)) else (least, most)
  match least, most with
  | 0, some 0 => .empty
  | 1, some 1 => r
  | _, _ => .rep least most greedy r

/-- Some expressions one after the other. -/
def concat : List Node → Node
  | [] => .empty
  | [r] => r
  | r :: rest => .seq r (concat rest)

/-- One of some expressions, the earlier ones first. -/
def choice : List Node → Node
  | [] => .empty
  | [r] => r
  | r :: rest => .alt r (choice rest)

end Node
end Regex
end LeftRec
