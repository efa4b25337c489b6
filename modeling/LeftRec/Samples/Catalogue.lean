import LeftRec.Blueprint.Datum
import LeftRec.Samples.Arithmetic
import LeftRec.Samples.Counting
import LeftRec.Samples.Indirect
import LeftRec.Samples.Pairs
import LeftRec.Samples.Subtraction
import LeftRec.Session

/-!
# The catalogue of samples

Every sample grammar by its name, with how its values are shown.
-/

namespace LeftRec

/-- A grammar over text with two views of its values: as data and as terms. -/
structure Sample where
  {ρ α : Type}
  /-- Build the grammar; those with memoized rules may take a parity. -/
  make : Parity → Build (Language (TextSignature ρ α) α)
  datum : α → Datum
  term : α → String
  /-- Whether the runs of a body are counted. -/
  counted : Bool := false

namespace Sample

/-- A sample that is a single parser without rules. -/
def ofParser {α : Type} (p : Parser (TextSignature Empty α) α) (datum : α → Datum)
    (term : α → String) : Sample where
  make _ := pure { grammar := { define := fun (rule : Empty) => nomatch rule }, start := p }
  datum
  term

def ofIntegers {ρ : Type} (make : Parity → Build (Language (TextSignature ρ Int) Int)) :
    Sample where
  make
  datum := .int
  term := toString

def ofNumbers (make : Parity → Build (Language Samples.NatRule Nat)) : Sample where
  make
  datum n := .int n
  term := toString

def ofText {ρ : Type} (make : Parity → Build (Language (TextSignature ρ String) String)) :
    Sample where
  make
  datum := .text
  term := Text.quote

def counting (sample : Sample) : Sample :=
  { sample with counted := true }

/-- The sample of a name.  Names in "with" choose the parity, the others have the even one. -/
def ofName? : String → Option Sample
  | "pairs" => some
      { make := fun _ => Samples.pairs, datum := fun t => .text t.text, term := Tree.term }
  | "number" => some (ofParser Parser.number .int toString)
  | "identifier" => some (ofParser Parser.identifier .text Text.quote)
  | "subtraction" => some (ofIntegers fun _ => Samples.subtraction .even)
  | "subtraction_with" => some (ofIntegers Samples.subtraction)
  | "subtraction_by_name" => some (ofIntegers fun _ => Samples.subtractionByName)
  | "arithmetic" => some (ofIntegers fun _ => Samples.arithmetic .even)
  | "arithmetic_with" => some (ofIntegers Samples.arithmetic)
  | "indirect" => some (ofText fun _ => Samples.indirect .even)
  | "indirect_with" => some (ofText Samples.indirect)
  | "counted_self_recursion" => some (ofNumbers fun _ => Samples.selfRecursion).counting
  | "counted_only_recursion" => some
      { make := Samples.onlyRecursion, datum := fun _ => .null, term := fun _ => "()",
        counted := true }
  | "greedy_prefix" => some (ofNumbers fun _ => Samples.greedy)
  | _ => none

/-- What a parse of text by a sample came to. -/
abbrev Trial (sample : Sample) (T : Type → Type) : Type :=
  Result (State (TextSignature sample.ρ sample.α) T) (Outcome sample.α)

/-- Parse text by a sample, with a new table. -/
def parse (sample : Sample) (T : Type → Type) [MemoTable T] (parity : Parity) (text : String)
    (consumeAll : Bool) : sample.Trial T :=
  Eval.building (sample.make parity) (fun L => L.parse (Input.ofText text) consumeAll) .new

end Sample
end LeftRec
