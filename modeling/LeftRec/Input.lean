/-!
# Input — a sequence of tokens with positions

Tokens have a positive width, and a position is the total width of the tokens before it.  In text
a token is a character and its width is its number of UTF-8 bytes; in a list of tokens every width
is one.  A position that no token starts at, because it is inside one or past the end, has no rest
and so no tokens.
-/

namespace LeftRec

/-- A finite sequence of tokens with their widths. -/
structure Input (τ : Type) where
  tokens : List τ
  width : τ → Nat
  width_pos : ∀ t, 0 < width t

namespace Input

variable {τ : Type}

/-! ## Widths and cuts -/

/-- The total width of some tokens. -/
def span (width : τ → Nat) : List τ → Nat
  | [] => 0
  | t :: rest => width t + span width rest

/-- The tokens before and after offset `n`, if a token starts or the list ends there. -/
def cut (width : τ → Nat) : List τ → Nat → Option (List τ × List τ)
  | rest, 0 => some ([], rest)
  | [], _ + 1 => none
  | t :: rest, n + 1 =>
      if width t ≤ n + 1 then
        (cut width rest (n + 1 - width t)).map fun (before, after) => (t :: before, after)
      else none

/-! ## Kinds of input -/

/-- Text, with positions in bytes. -/
def ofText (text : String) : Input Char :=
  { tokens := text.toList, width := Char.utf8Size, width_pos := Char.utf8Size_pos }

theorem length_tokens_ofText (text : String) : (ofText text).tokens.length = text.length :=
  text.length_toList

/-- A list of tokens, with positions counting them. -/
def ofList (tokens : List τ) : Input τ :=
  { tokens, width := fun _ => 1, width_pos := fun _ => Nat.one_pos }

/-! ## Reading -/

variable (input : Input τ)

/-- The position after the last token. -/
def extent : Nat :=
  span input.width input.tokens

/-- The tokens from a position on. -/
def rest? (pos : Nat) : Option (List τ) :=
  (cut input.width input.tokens pos).map (·.2)

/-- The tokens from a position on, none where no token starts. -/
def rest (pos : Nat) : List τ :=
  (input.rest? pos).getD []

/-- The token at a position and the position after it. -/
def next? (pos : Nat) : Option (τ × Nat) :=
  (input.rest pos).head?.map fun t => (t, pos + input.width t)

/-- Where the token that ends at a position starts. -/
def prev? (pos : Nat) : Option Nat :=
  (cut input.width input.tokens pos).bind fun (before, _) =>
    before.getLast?.map fun t => pos - input.width t

/-- The tokens between two positions, the end of the input standing for what lies past it. -/
def slice (start stop : Nat) : List τ :=
  let stop := min stop input.extent
  let start := min start stop
  ((cut input.width (input.rest start) (stop - start)).map (·.1)).getD []

/-- Whether the given tokens stand at a position. -/
def startsWith [BEq τ] (pos : Nat) (tokens : List τ) : Bool :=
  (input.rest? pos).any (tokens.isPrefixOf ·)

/-- How many tokens follow a position. -/
def remaining (pos : Nat) : Nat :=
  (input.rest pos).length

/-! ## Stepping -/

/-- At most `count` tokens back from a position. -/
def back : Nat → Nat → Nat
  | 0, pos => pos
  | count + 1, pos =>
      match input.prev? pos with
      | some before => back count before
      | none => pos

/-- At most `count` tokens on from a position. -/
def forth : Nat → Nat → Nat
  | 0, pos => pos
  | count + 1, pos =>
      match input.next? pos with
      | some (_, after) => forth count after
      | none => pos

theorem lt_of_next? {pos after : Nat} {t : τ} (h : input.next? pos = some (t, after)) :
    pos < after := by
  obtain ⟨_, -, heq⟩ := Option.map_eq_some_iff.1 h
  obtain ⟨rfl, rfl⟩ := Prod.mk.inj heq
  exact Nat.lt_add_of_pos_right (input.width_pos _)

/-- The tokens from a position on, one after the other, until another position is reached. -/
def collect (pos stop : Nat) : List τ :=
  if pos < stop then
    match _h : input.next? pos with
    | some (t, after) => t :: collect after stop
    | none => []
  else []
termination_by stop - pos
decreasing_by
  have := input.lt_of_next? _h
  omega

/-- At most `count` tokens to either side of a position, the end standing for what lies past it. -/
def window (pos count : Nat) : List τ :=
  let pos := min pos input.extent
  input.collect (input.back count pos) (input.forth count pos)

end Input

end LeftRec
