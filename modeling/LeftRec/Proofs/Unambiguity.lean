import LeftRec.Proofs.Formula

/-!
# Unambiguity — a text is written as one formula at most

A formula of a level is an operand of the level below, followed by signs with further operands.
Where nothing follows that would make an operand longer, its text says where it ends.  So two
formulas with one text have the same first operand, then the same sign, and so on to the end.
-/

namespace LeftRec
namespace Samples

/-! ## Levels -/

/-- The level of the operands. -/
@[reducible]
def Level.below : Level → Level
  | .expr => .term
  | .term => .factor
  | .factor => .factor

/-- The signs between the operands. -/
def Level.signs : Level → List Char
  | .expr => ['+', '-']
  | .term => ['*', '/']
  | .factor => []

namespace Level

variable {level : Level} {c : Char} {rest : List Char}

theorem extends_of_signs (h : c ∈ level.signs) : level.extends c = true := by
  cases level with
  | factor => cases h
  | term | expr =>
      simp only [signs, List.mem_cons, List.not_mem_nil, or_false] at h
      rcases h with rfl | rfl <;> rfl

theorem not_extends_below (h : c ∈ level.signs) : level.below.extends c = false := by
  cases level with
  | factor => cases h
  | term | expr =>
      simp only [signs, List.mem_cons, List.not_mem_nil, or_false] at h
      rcases h with rfl | rfl <;> rfl

theorem EndsBefore.below (h : level.EndsBefore rest) : level.below.EndsBefore rest := by
  intro c hc
  have hlevel := h c hc
  cases level with
  | factor => exact hlevel
  | term | expr =>
      simp only [Level.extends, Bool.or_eq_false_iff] at hlevel ⊢
      simp [hlevel]

/-- Whatever ends a formula ends a number. -/
theorem EndsBefore.factor (h : level.EndsBefore rest) : Level.factor.EndsBefore rest := by
  cases level with
  | factor => exact h
  | term => exact h.below
  | expr => exact h.below.below

/-- A sign ends the operand before it. -/
theorem endsBefore_below_cons (h : c ∈ level.signs) : level.below.EndsBefore (c :: rest) := by
  intro t ht
  obtain rfl := Option.some.inj ht
  exact not_extends_below h

end Level

/-! ## Formulas as chains of operands -/

namespace Formula

/-- A first operand, and the signs with the operands that follow it. -/
abbrev Chain (level : Level) : Type :=
  Formula level.below × List (Char × Formula level.below)

/-- The chain with one operation more. -/
def Chain.extend {level : Level} (chain : Chain level) (sign : Char)
    (right : Formula level.below) : Chain level :=
  (chain.1, chain.2 ++ [(sign, right)])

def chain : {level : Level} → Formula level → Chain level
  | _, .sum left right => left.chain.extend '+' right
  | _, .difference left right => left.chain.extend '-' right
  | _, .term single => (single, [])
  | _, .product left right => left.chain.extend '*' right
  | _, .quotient left right => left.chain.extend '/' right
  | _, .factor single => (single, [])
  | _, .number digits nonempty decimal => (.number digits nonempty decimal, [])
  | _, .parens inner => (.parens inner, [])

/-- A single operand as a formula. -/
def ofOperand : {level : Level} → Formula level.below → Formula level
  | .expr, operand => .term operand
  | .term, operand => .factor operand
  | .factor, operand => operand

/-- A formula with one operation more. -/
def operate : {level : Level} → Formula level → Char × Formula level.below → Formula level
  | .expr, left, (sign, right) => if sign = '+' then .sum left right else .difference left right
  | .term, left, (sign, right) => if sign = '*' then .product left right else .quotient left right
  | .factor, left, _ => left

/-- The text of the operations. -/
def writtenSteps {level : Level} (steps : List (Char × Formula level)) : List Char :=
  steps.flatMap fun step => step.1 :: step.2.written

variable {level : Level}

/-- The formula that a chain makes up. -/
def ofChain (chain : Chain level) : Formula level :=
  chain.2.foldl operate (ofOperand chain.1)

/-- The text of a chain. -/
def Chain.written (chain : Chain level) : List Char :=
  chain.1.written ++ writtenSteps chain.2

section Extend

variable (chain : Chain level) (sign : Char) (right : Formula level.below)

theorem ofChain_extend :
    ofChain (chain.extend sign right) = (ofChain chain).operate (sign, right) :=
  List.foldl_append

theorem written_extend :
    (chain.extend sign right).written = chain.written ++ sign :: right.written := by
  simp [Chain.written, Chain.extend, writtenSteps]

variable {chain sign right} in
theorem mem_extend {step : Char × Formula level.below} (h : step ∈ (chain.extend sign right).2) :
    step ∈ chain.2 ∨ step = (sign, right) :=
  (List.mem_append.1 h).imp_right List.mem_singleton.1

end Extend

/-- Nothing is lost in the chain. -/
theorem ofChain_chain (f : Formula level) : ofChain f.chain = f := by
  induction f with
  | sum left right ihl _ | difference left right ihl _ | product left right ihl _
  | quotient left right ihl _ =>
      rw [chain, ofChain_extend, ihl]
      rfl
  | term | factor | number | parens => rfl

theorem eq_of_chain_eq {f g : Formula level} (h : f.chain = g.chain) : f = g := by
  rw [← f.ofChain_chain, ← g.ofChain_chain, h]

theorem written_chain (f : Formula level) : f.chain.written = f.written := by
  induction f with
  | sum left right ihl _ | difference left right ihl _ | product left right ihl _
  | quotient left right ihl _ =>
      rw [chain, written_extend, ihl]
      rfl
  | term | factor | number | parens => exact List.append_nil _

theorem signs_chain (f : Formula level) : ∀ step ∈ f.chain.2, step.1 ∈ level.signs := by
  induction f with
  | sum left right ihl _ | difference left right ihl _ | product left right ihl _
  | quotient left right ihl _ =>
      intro step hstep
      rcases mem_extend hstep with hstep | rfl
      · exact ihl step hstep
      · simp [Level.signs]
  | term | factor | number | parens =>
      intro step hstep
      cases hstep

/-! ## Unique decomposition -/

/-- The text of the formula says where it ends, and is that of no other formula. -/
def Unique (f : Formula level) : Prop :=
  ∀ (g : Formula level) (rest rest' : List Char), f.written ++ rest = g.written ++ rest' →
    level.EndsBefore rest → level.EndsBefore rest' → f = g ∧ rest = rest'

/-- After an operand come signs, or what ends the whole. -/
theorem endsBefore_steps {steps : List (Char × Formula level.below)} {rest : List Char}
    (hsigns : ∀ step ∈ steps, step.1 ∈ level.signs) (hrest : level.EndsBefore rest) :
    level.below.EndsBefore (writtenSteps steps ++ rest) := by
  cases steps with
  | nil => exact hrest.below
  | cons step steps => exact Level.endsBefore_below_cons (hsigns step List.mem_cons_self)

theorem steps_unique {steps steps' : List (Char × Formula level.below)} {rest rest' : List Char}
    (hunique : ∀ step ∈ steps, step.2.Unique) (hsigns : ∀ step ∈ steps, step.1 ∈ level.signs)
    (hsigns' : ∀ step ∈ steps', step.1 ∈ level.signs) (hrest : level.EndsBefore rest)
    (hrest' : level.EndsBefore rest')
    (h : writtenSteps steps ++ rest = writtenSteps steps' ++ rest') :
    steps = steps' ∧ rest = rest' := by
  -- Where only one of the two goes on, what ends the other one would begin with a sign.
  have hends {c : Char} {more last : List Char} (hc : c ∈ level.signs)
      (hlast : level.EndsBefore last) (heq : last = c :: more) : False := by
    have hlonger := hlast c (by rw [heq]; rfl)
    rw [Level.extends_of_signs hc] at hlonger
    cases hlonger
  induction steps generalizing steps' with
  | nil =>
      cases steps' with
      | nil => exact ⟨rfl, h⟩
      | cons step' steps' => exact (hends (hsigns' step' List.mem_cons_self) hrest h).elim
  | cons step steps ih =>
      cases steps' with
      | nil => exact (hends (hsigns step List.mem_cons_self) hrest' h.symm).elim
      | cons step' steps' =>
          obtain ⟨sign, operand⟩ := step
          obtain ⟨sign', operand'⟩ := step'
          have hboth : sign :: (operand.written ++ (writtenSteps steps ++ rest)) =
              sign' :: (operand'.written ++ (writtenSteps steps' ++ rest')) := by
            simpa [writtenSteps] using h
          obtain ⟨rfl, hoperands⟩ := List.cons.inj hboth
          have hleft : ∀ step ∈ steps, step.1 ∈ level.signs :=
            fun step hstep => hsigns step (List.mem_cons_of_mem _ hstep)
          have hright : ∀ step ∈ steps', step.1 ∈ level.signs :=
            fun step hstep => hsigns' step (List.mem_cons_of_mem _ hstep)
          have hfirst : operand = operand' ∧ _ := hunique (sign, operand) List.mem_cons_self
            operand' _ _ hoperands (endsBefore_steps hleft hrest) (endsBefore_steps hright hrest')
          obtain ⟨rfl, hmore⟩ := hfirst
          obtain ⟨rfl, hlast⟩ := ih (fun step hstep => hunique step (List.mem_cons_of_mem _ hstep))
            hleft hright hmore
          exact ⟨rfl, hlast⟩

/-- A formula is unique if its operands are. -/
theorem unique_of_operands {f : Formula level} (hfirst : f.chain.1.Unique)
    (hsteps : ∀ step ∈ f.chain.2, step.2.Unique) : f.Unique := by
  intro g rest rest' h hrest hrest'
  -- Equal texts agree in the first operand, and what is left of them is the texts of the steps.
  rw [← f.written_chain, ← g.written_chain, Chain.written, Chain.written, List.append_assoc,
    List.append_assoc] at h
  obtain ⟨hoperand, hmore⟩ := hfirst g.chain.1 _ _ h (endsBefore_steps f.signs_chain hrest)
    (endsBefore_steps g.signs_chain hrest')
  obtain ⟨hall, hlast⟩ :=
    steps_unique hsteps f.signs_chain g.signs_chain hrest hrest' hmore
  exact ⟨eq_of_chain_eq (Prod.ext hoperand hall), hlast⟩

/-! ## Factors -/

/-- Digits end where the first other character stands. -/
theorem digits_append_inj {digits digits' rest rest' : List Char}
    (hdigits : ∀ c ∈ digits, c.isDigit = true) (hdigits' : ∀ c ∈ digits', c.isDigit = true)
    (hrest : Level.factor.EndsBefore rest) (hrest' : Level.factor.EndsBefore rest')
    (h : digits ++ rest = digits' ++ rest') : digits = digits' ∧ rest = rest' := by
  -- The digits are the longest stretch of them at the front, so the text alone tells them.
  have htake {digits rest : List Char} (hdigits : ∀ c ∈ digits, c.isDigit = true)
      (hrest : Level.factor.EndsBefore rest) :
      (digits ++ rest).takeWhile Char.isDigit = digits := by
    have hnone : rest.takeWhile Char.isDigit = [] := by
      cases rest with
      | nil => rfl
      | cons c rest =>
          have hc : c.isDigit = false := hrest c rfl
          rw [List.takeWhile_cons, hc]
          rfl
    rw [List.takeWhile_append_of_pos hdigits, hnone, List.append_nil]
  have hsame : digits = digits' := by
    rw [← htake hdigits hrest, h, htake hdigits' hrest']
  subst hsame
  exact ⟨rfl, List.append_cancel_left h⟩

/-- No number begins with a parenthesis. -/
theorem number_ne_parens {digits rest rest' : List Char} (nonempty : digits ≠ [])
    (decimal : ∀ c ∈ digits, c.isDigit = true) : digits ++ rest ≠ '(' :: rest' := by
  intro h
  cases digits with
  | nil => exact nonempty rfl
  | cons c digits =>
      obtain ⟨rfl, -⟩ := List.cons.inj h
      cases decimal '(' List.mem_cons_self

theorem unique_number (digits : List Char) (nonempty : digits ≠ [])
    (decimal : ∀ c ∈ digits, c.isDigit = true) : (number digits nonempty decimal).Unique := by
  intro g rest rest' h hrest hrest'
  cases g with
  | number digits' nonempty' decimal' =>
      obtain ⟨rfl, hlast⟩ := digits_append_inj decimal decimal' hrest hrest' h
      exact ⟨rfl, hlast⟩
  | parens inner => exact (number_ne_parens nonempty decimal h).elim

theorem unique_parens {inner : Formula .expr} (hinner : inner.Unique) : (parens inner).Unique := by
  intro g rest rest' h _ _
  have hclose (rest : List Char) : Level.expr.EndsBefore (')' :: rest) := by
    intro c hc
    obtain rfl := Option.some.inj hc
    rfl
  cases g with
  | number digits nonempty decimal => exact (number_ne_parens nonempty decimal h.symm).elim
  | parens inner' =>
      have hbetween : inner.written ++ (')' :: rest) = inner'.written ++ (')' :: rest') := by
        simpa [written] using h
      obtain ⟨rfl, hlast⟩ := hinner inner' _ _ hbetween (hclose rest) (hclose rest')
      exact ⟨rfl, (List.cons.inj hlast).2⟩

/-! ## All formulas -/

/-- Every formula is unique, and so are its operands.  The operands of a formula are not its parts
but those of its left sides, so both are carried through the induction. -/
theorem unique_operands (f : Formula level) :
    f.chain.1.Unique ∧ ∀ step ∈ f.chain.2, step.2.Unique := by
  induction f with
  | sum left right ihl ihr | difference left right ihl ihr | product left right ihl ihr
  | quotient left right ihl ihr =>
      have hright : right.Unique := unique_of_operands ihr.1 ihr.2
      refine ⟨ihl.1, fun step hstep => ?_⟩
      rcases mem_extend hstep with hstep | rfl
      · exact ihl.2 step hstep
      · exact hright
  | term single ih | factor single ih =>
      exact ⟨unique_of_operands ih.1 ih.2, fun _ hstep => (List.not_mem_nil hstep).elim⟩
  | number digits nonempty decimal =>
      exact ⟨unique_number digits nonempty decimal, fun _ hstep => (List.not_mem_nil hstep).elim⟩
  | parens inner ih =>
      exact ⟨unique_parens (unique_of_operands ih.1 ih.2),
        fun _ hstep => (List.not_mem_nil hstep).elim⟩

/-- The grammar is unambiguous: formulas of a level with one text are equal. -/
theorem eq_of_written_eq {f g : Formula level} (h : f.written = g.written) : f = g := by
  have hnil : level.EndsBefore [] := fun c hc => (nomatch hc)
  have hunique : f.Unique := unique_of_operands f.unique_operands.1 f.unique_operands.2
  exact (hunique g [] [] (by rw [h]) hnil hnil).1

end Formula

end Samples
end LeftRec
