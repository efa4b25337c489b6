import LeftRec.Checked
import LeftRec.Context

/-!
# Data — the values that described grammars yield

A grammar that is described by data yields data: nothing, truth values, integers, text and lists.
Functions on such values are data too, so a parser may yield a function for another one's value.
-/

namespace LeftRec

/-- A value of a described grammar. -/
inductive Datum
  | null
  | bool (b : Bool)
  | int (n : Int)
  | text (s : String)
  | list (items : List Datum)
  deriving BEq, Inhabited

namespace Datum

/-! ## What is inside -/

/-- The integers and pieces of text inside a value, depth first. -/
def leaves : Datum → List (Int ⊕ String)
  | .null | .bool _ => []
  | .int n => [.inl n]
  | .text s => [.inr s]
  | .list items => inside items
where
  /-- The integers and pieces of text inside some values. -/
  inside : List Datum → List (Int ⊕ String)
    | [] => []
    | d :: rest => d.leaves ++ inside rest

/-- All text inside a value, with integers in decimal. -/
def flatText (d : Datum) : String :=
  String.join (d.leaves.map fun
    | .inl n => toString n
    | .inr s => s)

/-- The number of items of a list or of characters of text. -/
def size : Datum → Nat
  | .text s => s.length
  | .list items => items.length
  | _ => 0

def item (index : Nat) : Datum → Datum
  | .list items => items.getD index .null
  | _ => .null

/-! ## Numbers in text -/

/-- The number that ASCII digits stand for, at least one of them. -/
def digits? : List Char → Option Nat
  | [] => none
  | cs =>
      if cs.all Char.isDigit then some (cs.foldl (fun n c => n * 10 + (c.toNat - '0'.toNat)) 0)
      else none

/-- A number with an optional sign. -/
def signed? : List Char → Option Int
  | '-' :: cs => (digits? cs).map fun n => -(n : Int)
  | '+' :: cs => (digits? cs).map fun n => (n : Int)
  | cs => (digits? cs).map fun n => (n : Int)

/-- The number that all the text of a value makes, if it is one of 64 bits. -/
def number? (d : Datum) : Option Int :=
  (signed? d.flatText.toList).filter fun n => decide (Checked.Fits n)

/-! ## Keys and contexts as values -/

def ofKey : Key → Datum
  | .id n => .int n
  | .name s => .text s

def ofContext (ctx : Context) : Datum :=
  .list (ctx.depths.map fun (key, depth) => .list [.ofKey key, .int depth])

def ofOption : Option Datum → Datum
  | some d => d
  | none => .null

end Datum

/-! ## Functions as data -/

/-- A function on values. -/
inductive Transform
  | identity
  | size
  | flatText
  | number
  | first
  | second
  /-- Pair the value with a label. -/
  | tag (label : Datum)
  | constant (value : Datum)
  deriving Inhabited

namespace Transform

def apply : Transform → Datum → Datum
  | .identity, d => d
  | .size, d => .int d.size
  | .flatText, d => .text d.flatText
  | .number, d => .ofOption (d.number?.map .int)
  | .first, d => d.item 0
  | .second, d => d.item 1
  | .tag label, d => .list [label, d]
  | .constant value, _ => value

/-- The function that a value stands for. -/
def ofDatum? : Datum → Option Transform
  | .text "id" => some .identity
  | .text "len" => some .size
  | .text "text" => some .flatText
  | .text "int" => some .number
  | .text "fst" => some .first
  | .text "snd" => some .second
  | .list [.text "tag", label] => some (.tag label)
  | .list [.text "const", value] => some (.constant value)
  | _ => none

/-- Apply the function that a value stands for.  A value that stands for none changes nothing. -/
def applyDatum (f d : Datum) : Datum :=
  ((ofDatum? f).getD .identity).apply d

end Transform

/-! ## Tests as data -/

/-- A test of single tokens. -/
inductive Test
  | always
  | never
  | among (tokens : List Datum)
  | notAmong (tokens : List Datum)
  /-- Between two integers, or between two pieces of text by their characters, inclusively. -/
  | range (low high : Datum)

def Test.holds : Test → Datum → Bool
  | .always, _ => true
  | .never, _ => false
  | .among tokens, d => tokens.contains d
  | .notAmong tokens, d => !tokens.contains d
  | .range (.int low) (.int high), .int n => low ≤ n && n ≤ high
  | .range (.text low) (.text high), .text s => (compare low s).isLE && (compare s high).isLE
  | .range .., _ => false

end LeftRec
