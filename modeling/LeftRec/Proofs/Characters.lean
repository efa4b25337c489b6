import LeftRec.Proofs.Binding
import LeftRec.Proofs.Relocation

/-!
# Characters — text is parsed as the list of its characters

In text positions count bytes, in a list they count tokens.  Runs on a text and on the list of its
characters are the same but for that: each index stands for the byte at which the character starts.
Recursion is bounded by the number of characters that remain, in text as in a list, so rules are
curtailed at the same places in both.
-/

namespace LeftRec

/-! ## Offsets and indices -/

namespace Input

variable {τ : Type} (input : Input τ)

/-- The position at which the token with the given index starts, or the end for the index after the
last one. -/
def offset (index : Nat) : Nat :=
  span input.width (input.tokens.take index)

theorem span_one (tokens : List τ) : span (fun _ => 1) tokens = tokens.length := by
  induction tokens with
  | nil => rfl
  | cons t rest ih => rw [span, ih, List.length_cons, Nat.add_comm]

/-- The same remains in an input and in the list of its tokens at the offset of an index and at the
index. -/
theorem images_offset :
    input.Images (ofList input.tokens) input.offset (· ≤ input.tokens.length) := by
  intro i j
  constructor
  · rintro ⟨⟨before, after, htokens, rfl⟩, ⟨word, tail, htokens', rfl⟩, hrest⟩
    rw [rest_of_append htokens, rest_of_append htokens'] at hrest
    subst hrest
    -- Both cuts leave the same tokens, so they cut off the same ones.
    have hsame : before ++ after = word ++ after := htokens.symm.trans htokens'
    obtain rfl := List.append_cancel_right hsame
    have hindex : span (ofList input.tokens).width before = before.length := span_one before
    rw [hindex, offset, htokens, List.take_left' rfl, List.length_append]
    exact ⟨Nat.le_add_right _ _, rfl⟩
  · rintro ⟨hj, rfl⟩
    have htokens : input.tokens = input.tokens.take j ++ input.tokens.drop j :=
      (List.take_append_drop j _).symm
    have hindex : j = span (ofList input.tokens).width (input.tokens.take j) := by
      show j = span (fun _ => 1) (input.tokens.take j)
      rw [span_one, List.length_take, Nat.min_eq_left hj]
    refine ⟨⟨_, _, htokens, rfl⟩, ⟨_, _, htokens, hindex⟩, ?_⟩
    have hchars : (ofList input.tokens).tokens = input.tokens.take j ++ input.tokens.drop j :=
      htokens
    rw [offset, rest_of_append htokens]
    conv_rhs => rw [hindex]
    exact (rest_of_append hchars).symm

end Input

/-! ## Text and characters -/

/-- Grammars over characters whose rules may yield values of several kinds. -/
abbrev CharSignature (Kind Rule : Type) [DecidableEq Kind] (Value : Kind → Type)
    (kind : Rule → Kind) : Signature where
  Token := Char
  Kind := Kind
  Value := Value
  Rule := Rule
  kind := kind

namespace Grammar

variable {Kind Rule α : Type} [DecidableEq Kind] {Value : Kind → Type} {kind : Rule → Kind}
variable {T : Type → Type} [MemoTable T] [LawfulMemoTable T]
variable {G : Grammar (CharSignature Kind Rule Value kind)}

/-- From an empty table and an empty context, running a parser on a text comes to what running it on
the list of the text's characters comes to: if that run uses up its fuel or stops at a fault, so
does this one, and otherwise values, failures and used sets are the same, and each index stands for
the offset of the character.  So it does in the tables.  Each visit of one run has a companion in
the other one, at the position that corresponds, and both go the same way: both are answered by the
table or curtailed, or both apply the parity rule, or neither is. -/
theorem run_text_characters (hsteady : G.Steady)
    {p : Parser (CharSignature Kind Rule Value kind) α} (hp : G.Built Parser.Offered p)
    (text : String) (fuel : Nat) {state : State (CharSignature Kind Rule Value kind) T}
    (hempty : state.NoEntries) :
    let bytes := Input.ofText text
    let chars := Input.ofList text.toList
    let root : Visit (CharSignature Kind Rule Value kind) T := ⟨p, fuel, 0, ∅, state⟩
    (G.run bytes fuel p 0 ∅ state).Rel
      (fun o o' => o = o'.relocate bytes.offset ∧ o'.pos ≤ text.toList.length)
      (State.Image bytes.offset (· ≤ text.toList.length)) (G.run chars fuel p 0 ∅ state) ∧
    (∀ v, G.Visits bytes root v → ∃ w, G.Visits chars root w ∧ v.Image bytes.offset w ∧
      ∀ way, G.Goes bytes way v ↔ G.Goes chars way w) ∧
    ∀ w, G.Visits chars root w → ∃ v, G.Visits bytes root v ∧ v.Image bytes.offset w ∧
      ∀ way, G.Goes bytes way v ↔ G.Goes chars way w := by
  intro bytes chars root
  have himages : bytes.Images chars bytes.offset (· ≤ text.toList.length) := bytes.images_offset
  have hstart : 0 ≤ text.toList.length := Nat.zero_le _
  have hrun := himages.run_relocate (S := CharSignature Kind Rule Value kind) hsteady hp fuel
    hstart ∅ hempty
  have hvisits := himages.visits_relocate (S := CharSignature Kind Rule Value kind) hsteady hp fuel
    hstart ∅ hempty
  exact ⟨hrun, hvisits⟩

/-- Letters behind a Greek one, which takes two bytes but is one character. -/
theorem run_text_characters_letters :
    let p : Parser (TextSignature Unit String) String := Parser.any.next letter
    ∃ after after' : State (TextSignature Unit String) OrderedTable,
      letters.run (Input.ofText "λxx") 20 p 0 ∅ .new = .done (.success ⟨"xx", 4, ∅⟩) after ∧
      letters.run (Input.ofList ['λ', 'x', 'x']) 20 p 0 ∅ .new =
        .done (.success ⟨"xx", 3, ∅⟩) after' ∧
      State.Image (Input.ofText "λxx").offset (· ≤ 3) after after' := by
  intro p
  have hsteady : letters.Steady := fun _ => Build.steady_fault _
  have hempty : (.new : State (TextSignature Unit String) OrderedTable).NoEntries :=
    State.noEntries_new
  obtain ⟨after', hchars⟩ : ∃ after' : State (TextSignature Unit String) OrderedTable,
      letters.run (Input.ofList ['λ', 'x', 'x']) 20 p 0 ∅ .new =
        .done (.success ⟨"xx", 3, ∅⟩) after' :=
    Result.exists_of_finished (by decide +kernel)
  have hlist : "λxx".toList = ['λ', 'x', 'x'] := by decide
  have hrun : Result.Rel _ _ _
      (letters.run (T := OrderedTable) (Input.ofList ['λ', 'x', 'x']) 20 p 0 ∅ .new) :=
    hlist ▸ (run_text_characters hsteady (built_letters (p := p) ⟨trivial, trivial, trivial⟩)
      "λxx" 20 hempty).1
  rw [hchars] at hrun
  obtain ⟨o, after, htext, ⟨rfl, -⟩, himage⟩ := hrun.of_done_right
  exact ⟨after, after', htext, hchars, himage⟩

end Grammar

end LeftRec
