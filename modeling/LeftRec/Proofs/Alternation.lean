import Mathlib.Data.List.Chain
import Mathlib.Data.List.Induction
import LeftRec.Samples.Indirect

/-!
# Alternation — the words of two rules that take turns

A derivation of one of the two rules is the rule's letter, or a derivation of the other rule with
the letter behind it.  So its letters take turns and end with the rule's own one, every word of this
form has a derivation, and the word tells which one it is.
-/

namespace LeftRec
namespace Samples

namespace IndirectRule

/-- The other rule, which the rule may begin with. -/
def partner : IndirectRule → IndirectRule
  | .s => .t
  | .t => .s

/-- The letter that the rule ends with. -/
def letter : IndirectRule → Char
  | .s => 'c'
  | .t => 'd'

/-- What becomes of the partner's text: `s` puts it in brackets and `t` in parentheses. -/
def enclose : IndirectRule → String → String
  | .s, inner => "[" ++ inner ++ "c]"
  | .t, inner => "(" ++ inner ++ "d)"

@[simp]
theorem partner_partner (rule : IndirectRule) : rule.partner.partner = rule := by
  cases rule <;> rfl

theorem letter_partner_ne (rule : IndirectRule) : rule.partner.letter ≠ rule.letter := by
  cases rule <;> decide

/-- There is no letter but the rule's own and its partner's. -/
theorem letter_eq_or (rule : IndirectRule) {x : Char} :
    x = 'c' ∨ x = 'd' ↔ x = rule.letter ∨ x = rule.partner.letter := by
  cases rule with
  | s => exact Iff.rfl
  | t => exact or_comm

end IndirectRule

/-! ## Derivations -/

/-- How a rule derives a word: `s` is the letter `c` or a `t` and the letter, and `t` is the letter
`d` or an `s` and the letter. -/
inductive Derivation : IndirectRule → Type
  | letter (rule : IndirectRule) : Derivation rule
  | longer {rule : IndirectRule} (inner : Derivation rule.partner) : Derivation rule

namespace Derivation

variable {rule : IndirectRule}

/-- The word that is derived. -/
def written {rule : IndirectRule} : Derivation rule → List Char
  | letter _ => [rule.letter]
  | longer inner => inner.written ++ [rule.letter]

/-- The derivation as text. -/
def text {rule : IndirectRule} : Derivation rule → String
  | letter _ => String.singleton rule.letter
  | longer inner => rule.enclose inner.text

theorem written_ne_nil (d : Derivation rule) : d.written ≠ [] := by
  cases d with
  | letter => exact List.cons_ne_nil _ _
  | longer inner => exact List.append_ne_nil_of_right_ne_nil _ (List.cons_ne_nil _ _)

/-- A word has one derivation at most. -/
theorem eq_of_written_eq {d e : Derivation rule} (h : d.written = e.written) : d = e := by
  induction d with
  | letter rule =>
      cases e with
      | letter => rfl
      | longer inner =>
          have hinner : [] ++ [rule.letter] = inner.written ++ [rule.letter] := h
          exact absurd (List.append_cancel_right hinner).symm inner.written_ne_nil
  | @longer rule inner ih =>
      cases e with
      | letter =>
          have hinner : inner.written ++ [rule.letter] = [] ++ [rule.letter] := h
          exact absurd (List.append_cancel_right hinner) inner.written_ne_nil
      | longer other => rw [ih (List.append_cancel_right h)]

end Derivation

/-! ## Words in which the letters take turns -/

/-- The letters `c` and `d` take turns, and the rule's own letter comes last. -/
structure Alternates (rule : IndirectRule) (word : List Char) : Prop where
  letters : ∀ x ∈ word, x = 'c' ∨ x = 'd'
  turns : word.IsChain (· ≠ ·)
  last : word.getLast? = some rule.letter

namespace Alternates

variable {rule : IndirectRule} {word : List Char} {x : Char}

theorem single (rule : IndirectRule) : Alternates rule [rule.letter] where
  letters _ hx := rule.letter_eq_or.2 (.inl (List.mem_singleton.1 hx))
  turns := .singleton _
  last := rfl

/-- The letter that comes last is the rule's, and what comes before it ends with the partner's. -/
theorem append_single (h : Alternates rule.partner word) :
    Alternates rule (word ++ [rule.letter]) where
  letters x hx := by
    rcases List.mem_append.1 hx with hx | hx
    · exact h.letters x hx
    · exact rule.letter_eq_or.2 (.inl (List.mem_singleton.1 hx))
  turns := by
    refine List.isChain_append.2 ⟨h.turns, .singleton _, fun x hx y hy => ?_⟩
    rw [h.last] at hx
    obtain rfl := Option.some.inj hx
    obtain rfl := Option.some.inj hy
    exact rule.letter_partner_ne
  last := List.getLast?_concat

/-- Before the last letter there is nothing, or a word that ends with the partner's letter. -/
theorem of_append (h : Alternates rule (word ++ [x])) :
    x = rule.letter ∧ (word = [] ∨ Alternates rule.partner word) := by
  obtain ⟨hturns, -, hmeet⟩ := List.isChain_append.1 h.turns
  have hx : x = rule.letter := Option.some.inj (List.getLast?_concat.symm.trans h.last)
  refine ⟨hx, ?_⟩
  cases hlast : word.getLast? with
  | none => exact .inl (List.getLast?_eq_none_iff.1 hlast)
  | some y =>
      have hne : y ≠ x := hmeet y hlast x rfl
      have hletter := h.letters y (List.mem_append_left _ (List.mem_of_getLast? hlast))
      rcases rule.letter_eq_or.1 hletter with hy | hy
      · exact absurd (hy.trans hx.symm) hne
      · rw [hy] at hlast
        exact .inr ⟨fun z hz => h.letters z (List.mem_append_left _ hz), hturns, hlast⟩

end Alternates

theorem Derivation.alternates {rule : IndirectRule} (d : Derivation rule) :
    Alternates rule d.written := by
  induction d with
  | letter rule => exact .single rule
  | longer inner ih => exact ih.append_single

/-- A word has a derivation exactly if its letters take turns and end with the rule's own one. -/
theorem exists_derivation_iff {rule : IndirectRule} {word : List Char} :
    (∃ d : Derivation rule, d.written = word) ↔ Alternates rule word := by
  constructor
  · rintro ⟨d, rfl⟩
    exact d.alternates
  · intro h
    -- Derivations grow at the end, and so the induction takes words from the right.
    induction word using List.reverseRecOn generalizing rule with
    | nil => exact nomatch h.last
    | append_singleton before x ih =>
        obtain ⟨rfl, rfl | hbefore⟩ := h.of_append
        · exact ⟨.letter rule, rfl⟩
        · obtain ⟨inner, rfl⟩ := ih hbefore
          exact ⟨.longer inner, rfl⟩

end Samples
end LeftRec
