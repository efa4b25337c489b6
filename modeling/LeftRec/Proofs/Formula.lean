import Mathlib.Data.Int.Basic
import LeftRec.Samples.Arithmetic

/-!
# Formulas — ordinary arithmetic

The texts of the arithmetic grammar and what they are worth, without any parsing.  A formula is a
derivation of the grammar: its shape says that products bind tighter than sums and that operations
of one level group to the left.  Its value is that of integer arithmetic, as long as nothing on the
way to it leaves the range of 64 bits and nothing is divided by zero.
-/

namespace LeftRec
namespace Samples

/-- How tightly a part of a formula binds. -/
inductive Level
  | expr
  | term
  | factor

/-- A formula of a level, one constructor for each production of the grammar. -/
inductive Formula : Level → Type
  | sum (left : Formula .expr) (right : Formula .term) : Formula .expr
  | difference (left : Formula .expr) (right : Formula .term) : Formula .expr
  | term (single : Formula .term) : Formula .expr
  | product (left : Formula .term) (right : Formula .factor) : Formula .term
  | quotient (left : Formula .term) (right : Formula .factor) : Formula .term
  | factor (single : Formula .factor) : Formula .term
  | number (digits : List Char) (nonempty : digits ≠ [])
      (decimal : ∀ c ∈ digits, c.isDigit = true) : Formula .factor
  | parens (inner : Formula .expr) : Formula .factor

/-- An integer, if it fits into 64 bits. -/
def fitting (n : Int) : Option Int :=
  if Checked.Fits n then some n else none

namespace Formula

/-- The text of a formula, without spaces. -/
def written : {level : Level} → Formula level → List Char
  | _, .sum left right => left.written ++ '+' :: right.written
  | _, .difference left right => left.written ++ '-' :: right.written
  | _, .term single => single.written
  | _, .product left right => left.written ++ '*' :: right.written
  | _, .quotient left right => left.written ++ '/' :: right.written
  | _, .factor single => single.written
  | _, .number digits _ _ => digits
  | _, .parens inner => '(' :: inner.written ++ [')']

/-- The value of a formula.  Division rounds toward zero. -/
def value? : {level : Level} → Formula level → Option Int
  | _, .sum left right => do fitting ((← left.value?) + (← right.value?))
  | _, .difference left right => do fitting ((← left.value?) - (← right.value?))
  | _, .term single => single.value?
  | _, .product left right => do fitting ((← left.value?) * (← right.value?))
  | _, .quotient left right => do
      let dividend ← left.value?
      let divisor ← right.value?
      if divisor = 0 then none else fitting (dividend.tdiv divisor)
  | _, .factor single => single.value?
  | _, .number digits _ _ => fitting (Nat.ofDigitChars 10 digits 0)
  | _, .parens inner => inner.value?

end Formula

/-! ## What may follow -/

/-- The characters that would make a formula of a level longer. -/
def Level.extends : Level → Char → Bool
  | .factor, c => c.isDigit
  | .term, c => c.isDigit || c == '*' || c == '/'
  | .expr, c => c.isDigit || c == '*' || c == '/' || c == '+' || c == '-'

/-- What follows does not make a formula of the level longer. -/
def Level.EndsBefore (level : Level) (rest : List ArithmeticSignature.Token) : Prop :=
  ∀ c, rest.head? = some c → level.extends c = false

/-! ## Checked operations -/

theorem result_eq_ok {operation : Arithmetic} {n v : Int} :
    Checked.result operation n = .ok v ↔ fitting n = some v := by
  by_cases h : Checked.Fits n
  · simp [Checked.result, fitting, h]
  · simp [Checked.result, fitting, h]

theorem divide_eq_ok {m n v : Int} :
    Checked.divide m n = .ok v ↔ (if n = 0 then none else fitting (m.tdiv n)) = some v := by
  by_cases h : n = 0
  · simp [Checked.divide, h]
  · simp only [Checked.divide, if_neg h, result_eq_ok]

/-- A sum, difference or product is the checked one of what is on its sides. -/
theorem fitting_bind_eq_some {x y : Option Int} {operation : Arithmetic} {f : Int → Int → Int}
    {v : Int} :
    (x >>= fun a => y >>= fun b => fitting (f a b)) = some v ↔
      ∃ a b, x = some a ∧ y = some b ∧ Checked.result operation (f a b) = .ok v := by
  simp only [Option.bind_eq_bind, Option.bind_eq_some_iff, result_eq_ok]
  constructor
  · rintro ⟨a, hx, b, hy, hv⟩
    exact ⟨a, b, hx, hy, hv⟩
  · rintro ⟨a, b, hx, hy, hv⟩
    exact ⟨a, hx, b, hy, hv⟩

namespace Formula

variable {v : Int}

theorem value?_sum {left : Formula .expr} {right : Formula .term} :
    (sum left right).value? = some v ↔
      ∃ a b, left.value? = some a ∧ right.value? = some b ∧ Checked.add a b = .ok v :=
  fitting_bind_eq_some

theorem value?_difference {left : Formula .expr} {right : Formula .term} :
    (difference left right).value? = some v ↔
      ∃ a b, left.value? = some a ∧ right.value? = some b ∧ Checked.subtract a b = .ok v :=
  fitting_bind_eq_some

theorem value?_product {left : Formula .term} {right : Formula .factor} :
    (product left right).value? = some v ↔
      ∃ a b, left.value? = some a ∧ right.value? = some b ∧ Checked.multiply a b = .ok v :=
  fitting_bind_eq_some

theorem value?_quotient {left : Formula .term} {right : Formula .factor} :
    (quotient left right).value? = some v ↔
      ∃ a b, left.value? = some a ∧ right.value? = some b ∧ Checked.divide a b = .ok v := by
  simp only [value?, Option.bind_eq_bind, Option.bind_eq_some_iff, divide_eq_ok]
  constructor
  · rintro ⟨a, ha, b, hb, hv⟩
    exact ⟨a, b, ha, hb, hv⟩
  · rintro ⟨a, b, ha, hb, hv⟩
    exact ⟨a, ha, b, hb, hv⟩

end Formula

/-! ## Numbers digit by digit -/

theorem le_ofDigitChars (digits : List Char) (n : Nat) : n ≤ Nat.ofDigitChars 10 digits n := by
  induction digits generalizing n with
  | nil => exact Nat.le_refl n
  | cons digit rest ih =>
      rw [Nat.ofDigitChars_cons]
      have hrest := ih (10 * n + (digit.toNat - '0'.toNat))
      omega

theorem ok_bind {ε α β : Type} (a : α) (f : α → Except ε β) : (Except.ok a >>= f) = f a := rfl

theorem error_bind {ε α β : Type} (e : ε) (f : α → Except ε β) :
    (Except.error e >>= f) = .error e := rfl

/-- A digit is put after a number unless the longer number does not fit. -/
theorem appendDigit_eq (n : Nat) (digit : Char) :
    Parser.appendDigit n digit =
      if Checked.Fits (10 * n + (digit.toNat - '0'.toNat) : Nat) then
        .ok (10 * n + (digit.toNat - '0'.toNat) : Nat)
      else if Checked.Fits (n * 10) then .error (.overflow .add)
      else .error (.overflow .multiply) := by
  have hcast : (n : Int) * 10 + (digit.toNat - '0'.toNat : Nat) =
      (10 * n + (digit.toNat - '0'.toNat) : Nat) := by
    push_cast
    omega
  -- The product is the smaller of the two numbers, so it fits wherever the sum does.
  have hsmaller : Checked.Fits (10 * n + (digit.toNat - '0'.toNat) : Nat) →
      Checked.Fits (n * 10) := by
    intro h
    simp only [Checked.Fits] at h ⊢
    omega
  by_cases hproduct : Checked.Fits (n * 10)
  · have hmultiply : Checked.multiply n 10 = .ok ((n : Int) * 10) := by
      rw [Checked.multiply, Checked.result, if_pos hproduct]
    have hadd : Parser.appendDigit n digit =
        Checked.add ((n : Int) * 10) (digit.toNat - '0'.toNat : Nat) := by
      rw [Parser.appendDigit, hmultiply, ok_bind]
    rw [hadd, Checked.add, hcast, Checked.result, if_pos hproduct]
  · have hmultiply : Checked.multiply n 10 = .error (.overflow .multiply) := by
      rw [Checked.multiply, Checked.result, if_neg hproduct]
    have hsum : ¬ Checked.Fits (10 * n + (digit.toNat - '0'.toNat) : Nat) := fun h =>
      hproduct (hsmaller h)
    rw [Parser.appendDigit, hmultiply, error_bind, if_neg hsum, if_neg hproduct]

/-- Reading digits one by one stops at an overflow exactly if their number does not fit. -/
theorem foldlM_appendDigit_eq_ok {digits : List Char} {n : Nat} (hn : Checked.Fits n) {v : Int} :
    digits.foldlM Parser.appendDigit (n : Int) = .ok v ↔
      fitting (Nat.ofDigitChars 10 digits n) = some v := by
  induction digits generalizing n with
  | nil =>
      show Except.ok (n : Int) = .ok v ↔ fitting n = some v
      rw [fitting, if_pos hn, Except.ok.injEq, Option.some.injEq]
  | cons digit rest ih =>
      rw [List.foldlM_cons, appendDigit_eq, Nat.ofDigitChars_cons]
      by_cases hnext : Checked.Fits (10 * n + (digit.toNat - '0'.toNat) : Nat)
      · rw [if_pos hnext]
        exact ih hnext
      · -- The number of all digits is no smaller than that of the digits so far.
        have hall : ¬ Checked.Fits
            (Nat.ofDigitChars 10 rest (10 * n + (digit.toNat - '0'.toNat)) : Nat) := by
          intro hfits
          have hle := le_ofDigitChars rest (10 * n + (digit.toNat - '0'.toNat))
          apply hnext
          simp only [Checked.Fits] at hfits ⊢
          omega
        rw [if_neg hnext, fitting, if_neg hall]
        split
        · exact ⟨fun h => (nomatch h), fun h => (nomatch h)⟩
        · exact ⟨fun h => (nomatch h), fun h => (nomatch h)⟩

theorem number_eq_ok {digits : List Char} {nonempty : digits ≠ []}
    {decimal : ∀ c ∈ digits, c.isDigit = true} {v : Int} :
    digits.foldlM Parser.appendDigit 0 = .ok v ↔
      (Formula.number digits nonempty decimal).value? = some v :=
  foldlM_appendDigit_eq_ok (n := 0) (by decide)

end Samples
end LeftRec
