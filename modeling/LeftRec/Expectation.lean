/-!
# Expectations — what a parser was looking for

A failure that consumed nothing says what would have been accepted in its place.  Expectations of
several alternatives are collected in first-seen order without duplicates, and read as a list in
words.
-/

namespace LeftRec

/-- Distinct descriptions of what was expected, in first-seen order. -/
@[ext]
structure Expectation where
  items : List String
  distinct : items.Nodup
  deriving DecidableEq

namespace Expectation

instance : EmptyCollection Expectation := ⟨⟨[], .nil⟩⟩

instance : Inhabited Expectation := ⟨∅⟩

def one (what : String) : Expectation :=
  ⟨[what], List.pairwise_singleton _ _⟩

/-- Add a description unless it is there already. -/
def push (e : Expectation) (what : String) : Expectation :=
  if h : what ∈ e.items then e
  else
    { items := e.items ++ [what]
      distinct := List.nodup_append.2
        ⟨e.distinct, List.pairwise_singleton _ _, fun a ha b hb hab => by
          rw [List.mem_singleton.1 hb] at hab
          exact h (hab ▸ ha)⟩ }

def extend (e : Expectation) (more : List String) : Expectation :=
  more.foldl push e

def ofList (items : List String) : Expectation :=
  extend ∅ items

/-- The list in words, with a comma before the last "or" from three items on. -/
def describe : List String → String
  | [] => "nothing"
  | [only] => only
  | [first, second] => first ++ " or " ++ second
  | many => String.join ((many.dropLast).map (· ++ ", ")) ++ "or " ++ many.getLastD ""

def message (e : Expectation) : String :=
  "Expected " ++ describe e.items

@[simp]
theorem mem_push {e : Expectation} {what s : String} :
    s ∈ (e.push what).items ↔ s ∈ e.items ∨ s = what := by
  unfold push
  split
  next h => exact ⟨.inl, fun hs => hs.elim id (· ▸ h)⟩
  next => simp

end Expectation

end LeftRec
