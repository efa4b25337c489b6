import LeftRec.Text.Blank
import LeftRec.Text.Category.Numbers
import LeftRec.Text.Folding
import LeftRec.Text.Word

/-!
# Sets of characters

The classes of regular expressions: ranges of characters, combined by the operations on sets and
closed under a change of case.
-/

namespace LeftRec
namespace Regex

/-- A set of code points. -/
inductive CharSet
  | ranges (rs : Ranges)
  | union (a b : CharSet)
  | inter (a b : CharSet)
  | compl (a : CharSet)
  /-- With all characters that differ from one in the set only in case. -/
  | folded (a : CharSet)

namespace CharSet

/-- Whether a code point is in the set. -/
def has : CharSet → Nat → Bool
  | .ranges rs, n => rs.any fun (low, high) => low ≤ n && n ≤ high
  | .union a b, n => a.has n || b.has n
  | .inter a b, n => a.has n && b.has n
  | .compl a, n => !a.has n
  | .folded a, n => a.has n || (Text.equivalents n).any a.has

def contains (s : CharSet) (c : Char) : Bool :=
  s.has c.toNat

/-! ## Operations -/

def empty : CharSet := ranges []

def single (c : Char) : CharSet := ranges [(c.toNat, c.toNat)]

def diff (a b : CharSet) : CharSet := a.inter b.compl

def symmDiff (a b : CharSet) : CharSet := (a.diff b).union (b.diff a)

/-- The complement, if asked for. -/
def negateIf (negated : Bool) (a : CharSet) : CharSet :=
  if negated then a.compl else a

/-- The closure under a change of case, if asked for. -/
def foldIf (caseless : Bool) (a : CharSet) : CharSet :=
  if caseless then a.folded else a

/-- Closed under the change of case of ASCII letters. -/
def asciiFold (a : CharSet) : CharSet :=
  (List.range 26).foldl (fun s i =>
    let s := if a.has (0x41 + i) then s.union (.ranges [(0x61 + i, 0x61 + i)]) else s
    if a.has (0x61 + i) then s.union (.ranges [(0x41 + i, 0x41 + i)]) else s) a

/-! ## Named sets -/

/-- Decimal digits. -/
def digit : CharSet := ranges Text.decimalRanges

/-- White space. -/
def blank : CharSet := ranges Text.blankRanges

/-- What words are made of. -/
def word : CharSet := ranges Text.wordRanges

def asciiDigit : CharSet := ranges [(0x30, 0x39)]

def asciiBlank : CharSet := ranges [(0x9, 0xd), (0x20, 0x20)]

def asciiWord : CharSet := ranges [(0x30, 0x39), (0x41, 0x5a), (0x5f, 0x5f), (0x61, 0x7a)]

/-- The ASCII set that a name in brackets and colons stands for. -/
def ofAsciiName? : String → Option CharSet
  | "alnum" => some (ranges [(0x30, 0x39), (0x41, 0x5a), (0x61, 0x7a)])
  | "alpha" => some (ranges [(0x41, 0x5a), (0x61, 0x7a)])
  | "ascii" => some (ranges [(0, 0x7f)])
  | "blank" => some (ranges [(0x9, 0x9), (0x20, 0x20)])
  | "cntrl" => some (ranges [(0, 0x1f), (0x7f, 0x7f)])
  | "digit" => some asciiDigit
  | "graph" => some (ranges [(0x21, 0x7e)])
  | "lower" => some (ranges [(0x61, 0x7a)])
  | "print" => some (ranges [(0x20, 0x7e)])
  | "punct" => some (ranges [(0x21, 0x2f), (0x3a, 0x40), (0x5b, 0x60), (0x7b, 0x7e)])
  | "space" => some asciiBlank
  | "upper" => some (ranges [(0x41, 0x5a)])
  | "word" => some asciiWord
  | "xdigit" => some (ranges [(0x30, 0x39), (0x41, 0x46), (0x61, 0x66)])
  | _ => none

end CharSet
end Regex
end LeftRec
