import LeftRec.Proofs.Derivation
import LeftRec.Proofs.Formula
import LeftRec.Proofs.Visits
import LeftRec.Session

/-!
# Calculation — what is found in a text is a formula's value

Every success of the arithmetic grammar has read a formula and has its value.  The memo table hands
successes on from one level of a left recursion to another, so this is an invariant of all that is
stored: an entry of a rule is a formula of the rule's level, whichever run has left it there.
-/

namespace LeftRec

variable {S : Signature} {T : Type → Type} {α β γ : Type}

/-! ## Tables whose entries mean something -/

/-- Every stored outcome is justified by what its key stands for. -/
def State.Means [MemoTable T] (input : Input S.Token)
    (M : (kind : S.Kind) → Key → Meaning S (S.Value kind)) (state : State S T) : Prop :=
  ∀ kind key pos o under, state.lookup kind key pos = some (o, under) →
    o.Justified input (M kind key) pos

theorem State.NoEntries.means [MemoTable T] {input : Input S.Token}
    {M : (kind : S.Kind) → Key → Meaning S (S.Value kind)} {state : State S T}
    (h : state.NoEntries) : state.Means input M := by
  intro kind key pos o under hlookup
  rw [h kind key pos] at hlookup
  cases hlookup

/-- A rule whose body has the meaning of its key keeps all entries meaningful. -/
theorem Run.Sound.memo [MemoTable T] [LawfulMemoTable T] {input : Input S.Token}
    {M : (kind : S.Kind) → Key → Meaning S (S.Value kind)} {kind : S.Kind} (parity : Parity)
    {key : Key} {body : Run S T (S.Value kind)}
    (hbody : body.Sound input (State.Means input M) (M kind key)) :
    (Run.memo input kind parity key body).Sound input (State.Means input M) (M kind key) := by
  intro pos ctx state o after hstate hrun
  rcases memo_eq_done.1 hrun with
    ⟨under, hlookup, -, rfl⟩ | ⟨-, -, rfl, rfl⟩ | ⟨-, -, hrefresh⟩
  · exact ⟨hstate kind key pos o under hlookup, hstate⟩
  · exact ⟨.failure _, hstate⟩
  · obtain ⟨-, fresh, middle, hfresh, hkeep⟩ := refresh_eq_done.1 hrefresh
    obtain ⟨hfresh, hmiddle⟩ := hbody hstate hfresh
    obtain ⟨rfl, rfl⟩ := Prod.mk.inj hkeep
    -- A stored success that is preferred has the meaning of the key already.
    have hkept : (keep input kind parity key pos ctx fresh middle).1.Justified input
        (M kind key) pos := by
      rcases keep_fst_cases input parity key pos ctx fresh middle with
        hkept | ⟨s, under, hlookup, hkept⟩
      · rw [hkept]
        exact hfresh
      · rw [hkept]
        exact hmiddle kind key pos _ under hlookup
    refine ⟨hkept, fun kind' key' pos' o' under' hlookup => ?_⟩
    rcases lookup_keep_cases hlookup with ⟨rfl, rfl, rfl, rfl, -⟩ | hlookup
    · exact hkept
    · exact hmiddle kind' key' pos' o' under' hlookup

/-! ## Parsers whose runs are sound -/

namespace Grammar

variable [MemoTable T]

/-- The parser's runs with so much fuel have the meaning. -/
def SoundWith (G : Grammar S) (input : Input S.Token) (invariant : State S T → Prop) (fuel : Nat)
    (p : Parser S α) (D : Meaning S α) : Prop :=
  (G.run input fuel p : Run S T α).Sound input invariant D

namespace SoundWith

variable {G : Grammar S} {input : Input S.Token} {invariant : State S T → Prop} {fuel : Nat}
variable {p : Parser S α} {q : Parser S β} {D : Meaning S α} {D' : Meaning S β} {E : Meaning S γ}

theorem zero (p : Parser S α) (D : Meaning S α) : SoundWith G input invariant 0 p D := by
  intro pos ctx state o after hstate hrun
  cases hrun

theorem literal {tokens : List S.Token} {name : String} {D : Meaning S (List S.Token)}
    (hD : ∀ rest, D tokens rest tokens) :
    SoundWith G input invariant fuel (.literal tokens name) D := by
  cases fuel with
  | zero => exact zero _ _
  | succ fuel => exact Run.sound_literal hD

theorem token {test : S.Token → Bool} {name : String} {D : Meaning S S.Token}
    (hD : ∀ t rest, test t = true → D [t] rest t) :
    SoundWith G input invariant fuel (.token test name) D := by
  cases fuel with
  | zero => exact zero _ _
  | succ fuel => exact Run.sound_token hD

theorem eof {D : Meaning S Unit} (hD : D [] [] ()) :
    SoundWith G input invariant fuel .eof D := by
  cases fuel with
  | zero => exact zero _ _
  | succ fuel => exact Run.sound_eof hD

theorem tryMap {f : α → Except Fault β} (hp : SoundWith G input invariant fuel p D)
    (hD : ∀ word rest a b, D word rest a → f a = .ok b → D' word rest b) :
    SoundWith G input invariant fuel (.tryMap f p) D' := by
  rw [SoundWith, run_tryMap]
  exact Run.Sound.tryMap hp hD

theorem zipWith {f : α → β → γ} (hp : SoundWith G input invariant fuel p D)
    (hq : SoundWith G input invariant fuel q D')
    (hE : ∀ word more rest a b, D word (more ++ rest) a → D' more rest b →
      E (word ++ more) rest (f a b)) :
    SoundWith G input invariant fuel (.zipWith f p q) E := by
  rw [SoundWith, run_zipWith]
  exact Run.Sound.zipWith hp hq hE

theorem alt {q : Parser S α} {D' E : Meaning S α} (hp : SoundWith G input invariant fuel p D)
    (hq : SoundWith G input invariant fuel q D')
    (hleft : ∀ word rest a, D word rest a → E word rest a)
    (hright : ∀ word rest a, D' word rest a → E word rest a) :
    SoundWith G input invariant fuel (.alt p q) E := by
  rw [SoundWith, run_alt]
  exact Run.Sound.alt hp hq hleft hright

theorem label (name : String) (hp : SoundWith G input invariant fuel p D) :
    SoundWith G input invariant fuel (.label name p) D := by
  rw [SoundWith, run_label]
  intro pos ctx state o after hstate hrun
  obtain ⟨first, hfirst, rfl⟩ := Run.label_eq_done.1 hrun
  obtain ⟨ho, hafter⟩ := hp hstate hfirst
  -- Only a failure is described anew, and failures need no justification.
  cases first with
  | success s => exact ⟨ho, hafter⟩
  | failure e => exact ⟨.failure _, hafter⟩

theorem many {M : Meaning S (List α)} (hp : SoundWith G input invariant fuel p D)
    (hnil : ∀ rest, M [] rest [])
    (hcons : ∀ word more rest a as, D word (more ++ rest) a → M more rest as →
      M (word ++ more) rest (a :: as)) :
    SoundWith G input invariant fuel p.many M := by
  cases fuel with
  | zero => exact zero _ _
  | succ fuel => exact Run.sound_many hp hnil hcons fuel

/-- A memoized rule means what its key stands for if its body does with one unit of fuel less. -/
theorem ref [LawfulMemoTable T] {M : (kind : S.Kind) → Key → Meaning S (S.Value kind)}
    {rule : S.Rule} {parity : Parity} {key : Key} {body : Parser S (S.Value (S.kind rule))}
    (hdefine : G.define rule = some (.memo (S.kind rule) parity key body))
    (hbody : SoundWith (T := T) G input (State.Means input M) fuel body (M (S.kind rule) key)) :
    SoundWith (T := T) G input (State.Means input M) (fuel + 1) (.ref rule)
      (M (S.kind rule) key) := by
  rw [SoundWith, run_ref, call_rule hdefine]
  cases fuel with
  | zero => exact zero _ _
  | succ fuel => exact Run.Sound.memo parity hbody

/-- A word of a text is read as it is written. -/
theorem text {ρ ν : Type} {G : Grammar (TextSignature ρ ν)}
    {input : Input (TextSignature ρ ν).Token} {invariant : State (TextSignature ρ ν) T → Prop}
    (word : String) : SoundWith G input invariant fuel (.text word) fun read _ v =>
      read = word.toList ∧ v = word := by
  have hliteral : SoundWith G input invariant fuel
      (.literal (S := TextSignature ρ ν) word.toList word)
      fun read _ tokens => read = word.toList ∧ tokens = word.toList := .literal fun _ => ⟨rfl, rfl⟩
  refine hliteral.tryMap ?_
  rintro _ _ _ _ ⟨rfl, rfl⟩ hv
  exact ⟨rfl, (Except.ok.inj hv).symm.trans (String.ofList_toList)⟩

/-- What a run over the whole input finds is what all of its tokens mean. -/
theorem complete {ctx : Context} {state after : State S T} {s : Success α}
    (hp : SoundWith G input invariant fuel p D) (hstate : invariant state)
    (hrun : G.run input fuel p.complete 0 ctx state = .done (.success s) after) :
    D input.tokens [] s.value := by
  have hcomplete := hp.zipWith (f := fun a _ => a)
    (E := fun word rest a => rest = [] ∧ D word rest a)
    (SoundWith.eof (D := fun word rest _ => word = [] ∧ rest = []) ⟨rfl, rfl⟩) (by
      rintro word _ rest a _ hword ⟨rfl, rfl⟩
      rw [List.append_nil]
      exact ⟨rfl, hword⟩)
  obtain ⟨ho, -⟩ := hcomplete hstate hrun
  obtain ⟨word, hword, hrest, hvalue⟩ := ho s rfl
  have htokens : input.rest (Input.span input.width []) = input.tokens :=
    Input.rest_of_append rfl
  have hall : input.tokens = word := by
    calc input.tokens = input.rest 0 := htokens.symm
      _ = word ++ input.rest s.pos := hword.rest_eq
      _ = word := by rw [hrest, List.append_nil]
  rw [hall, ← hrest]
  exact hvalue

end SoundWith

end Grammar

namespace Samples

open Grammar (SoundWith)

/-! ## Formulas and their values -/

/-- A word is the text of a formula of the level, and the value is the formula's. -/
def Calculates (level : Level) : Meaning ArithmeticSignature Int :=
  fun word _ v => ∃ f : Formula level, f.written = word ∧ f.value? = some v

/-- What the keys of the grammar stand for. -/
def keyMeaning (termKey : Key) (_ : ArithmeticSignature.Kind) (key : Key) :
    Meaning ArithmeticSignature Int :=
  if key = termKey then Calculates .term else Calculates .expr

section Parts

variable [MemoTable T] {G : Grammar ArithmeticSignature} {input : Input ArithmeticSignature.Token}
variable {fuel : Nat} {invariant : State ArithmeticSignature T → Prop}

/-- Digits are read to the value of their number. -/
theorem sound_number : SoundWith G input invariant fuel Parser.number (Calculates .factor) := by
  have hdigit : SoundWith G input invariant fuel
      (.token (S := ArithmeticSignature) Char.isDigit "digit")
      fun word _ c => word = [c] ∧ Char.isDigit c = true := .token fun _ _ h => ⟨rfl, h⟩
  have hmany : SoundWith G input invariant fuel
      (Parser.token (S := ArithmeticSignature) Char.isDigit "digit").many
      fun word _ cs => word = cs ∧ ∀ c ∈ cs, Char.isDigit c = true := by
    refine hdigit.many (fun _ => ⟨rfl, fun _ h => nomatch h⟩) ?_
    rintro _ _ rest c cs ⟨rfl, hc⟩ ⟨rfl, hcs⟩
    exact ⟨rfl, List.forall_mem_cons.2 ⟨hc, hcs⟩⟩
  have hdigits : SoundWith G input invariant fuel
      (Parser.token (S := ArithmeticSignature) Char.isDigit "digit").many1
      fun word _ cs => word = cs ∧ cs ≠ [] ∧ ∀ c ∈ cs, Char.isDigit c = true := by
    refine hdigit.zipWith hmany ?_
    rintro _ _ rest c cs ⟨rfl, hc⟩ ⟨rfl, hcs⟩
    exact ⟨rfl, List.cons_ne_nil _ _, List.forall_mem_cons.2 ⟨hc, hcs⟩⟩
  refine SoundWith.label "number" (hdigits.tryMap ?_)
  rintro _ rest _ v ⟨rfl, hnonempty, hdecimal⟩ hv
  exact ⟨.number _ hnonempty hdecimal, rfl, number_eq_ok.1 hv⟩

/-- An operation joins what stands on both sides of its sign. -/
theorem sound_operation {left right : Parser ArithmeticSignature Int} {sign : String}
    {f : Int → Int → Except Fault Int} {level level' : Level}
    {E : Meaning ArithmeticSignature Int}
    (hleft : SoundWith G input invariant fuel left (Calculates level))
    (hright : SoundWith G input invariant fuel right (Calculates level'))
    (hE : ∀ (first : Formula level) (second : Formula level') rest a b v,
      first.value? = some a → second.value? = some b → f a b = .ok v →
      E (first.written ++ sign.toList ++ second.written) rest v) :
    SoundWith G input invariant fuel (operation left sign f right) E := by
  have hsigned : SoundWith G input invariant fuel (left.skip (.text sign)) fun word _ a =>
      ∃ first : Formula level, word = first.written ++ sign.toList ∧ first.value? = some a := by
    refine hleft.zipWith (.text sign) ?_
    rintro _ _ rest a b ⟨first, rfl, ha⟩ ⟨rfl, -⟩
    exact ⟨first, rfl, ha⟩
  have hboth : SoundWith G input invariant fuel ((left.skip (.text sign)).seq right)
      fun word _ pair => ∃ (first : Formula level) (second : Formula level'),
        word = first.written ++ sign.toList ++ second.written ∧
          first.value? = some pair.1 ∧ second.value? = some pair.2 := by
    refine hsigned.zipWith hright ?_
    rintro _ _ rest a b ⟨first, rfl, ha⟩ ⟨second, rfl, hb⟩
    exact ⟨first, second, rfl, ha, hb⟩
  refine hboth.tryMap ?_
  rintro _ rest ⟨a, b⟩ v ⟨first, second, rfl, ha, hb⟩ hv
  exact hE first second rest a b v ha hb hv

/-- A level is two operations on it and the level below. -/
theorem sound_operations (sign sign' : String) {f f' : Int → Int → Except Fault Int}
    {self operand : Parser ArithmeticSignature Int} {level below : Level}
    (hself : SoundWith G input invariant fuel self (Calculates level))
    (hoperand : SoundWith G input invariant fuel operand (Calculates below))
    (first second : Formula level → Formula below → Formula level)
    (single : Formula below → Formula level)
    (hfirst : ∀ left right a b v, left.value? = some a → right.value? = some b → f a b = .ok v →
      (first left right).written = left.written ++ sign.toList ++ right.written ∧
        (first left right).value? = some v)
    (hsecond : ∀ left right a b v, left.value? = some a → right.value? = some b →
      f' a b = .ok v →
      (second left right).written = left.written ++ sign'.toList ++ right.written ∧
        (second left right).value? = some v)
    (hsingle : ∀ f, (single f).written = f.written ∧ (single f).value? = f.value?) :
    SoundWith G input invariant fuel
      ((operation self sign f operand ||| operation self sign' f' operand) ||| operand)
      (Calculates level) := by
  have hone : SoundWith G input invariant fuel (operation self sign f operand)
      (Calculates level) := by
    refine sound_operation hself hoperand fun left right _ a b v ha hb hv => ?_
    exact ⟨first left right, hfirst left right a b v ha hb hv⟩
  have hother : SoundWith G input invariant fuel (operation self sign' f' operand)
      (Calculates level) := by
    refine sound_operation hself hoperand fun left right _ a b v ha hb hv => ?_
    exact ⟨second left right, hsecond left right a b v ha hb hv⟩
  have hboth := hone.alt hother (E := Calculates level) (fun _ _ _ h => h) fun _ _ _ h => h
  refine hboth.alt hoperand (fun _ _ _ h => h) ?_
  rintro _ rest v ⟨below, rfl, hv⟩
  obtain ⟨hwritten, hvalue⟩ := hsingle below
  exact ⟨single below, hwritten, hvalue.trans hv⟩

/-- A factor is a number or an expression in parentheses. -/
theorem sound_factor (hexpr : SoundWith G input invariant fuel
      (.ref (S := ArithmeticSignature) .expr) (Calculates .expr)) :
    SoundWith G input invariant fuel factor (Calculates .factor) := by
  have hopened : SoundWith G input invariant fuel
      ((Parser.text "(").next (.ref (S := ArithmeticSignature) .expr)) fun word _ v =>
        ∃ inner : Formula .expr, word = '(' :: inner.written ∧ inner.value? = some v := by
    refine (SoundWith.text "(").zipWith hexpr ?_
    rintro _ _ rest a v ⟨rfl, -⟩ ⟨inner, rfl, hv⟩
    exact ⟨inner, rfl, hv⟩
  have hclosed : SoundWith G input invariant fuel
      (((Parser.text "(").next (.ref (S := ArithmeticSignature) .expr)).skip (Parser.text ")"))
      (Calculates .factor) := by
    refine hopened.zipWith (.text ")") ?_
    rintro _ _ rest v b ⟨inner, rfl, hv⟩ ⟨rfl, -⟩
    exact ⟨.parens inner, rfl, hv⟩
  exact sound_number.alt hclosed (fun _ _ _ h => h) fun _ _ _ h => h

end Parts

/-! ## The two rules -/

section Rules

variable [MemoTable T] [LawfulMemoTable T] {parity : Parity} {termKey exprKey : Key}
variable {input : Input ArithmeticSignature.Token}

/-- With any fuel, what the rules find and what they leave in the table are formulas' values. -/
theorem sound_rules (hkeys : exprKey ≠ termKey) (fuel : Nat) :
    SoundWith (T := T) (arithmeticGrammar parity termKey exprKey) input
        (State.Means input (keyMeaning termKey)) fuel (.ref (S := ArithmeticSignature) .term)
        (Calculates .term) ∧
      SoundWith (T := T) (arithmeticGrammar parity termKey exprKey) input
        (State.Means input (keyMeaning termKey)) fuel (.ref (S := ArithmeticSignature) .expr)
        (Calculates .expr) := by
  have hterm : keyMeaning termKey () termKey = Calculates .term := if_pos rfl
  have hexpr : keyMeaning termKey () exprKey = Calculates .expr := if_neg hkeys
  -- A rule's body refers to rules with one unit of fuel less.
  induction fuel with
  | zero => exact ⟨.zero _ _, .zero _ _⟩
  | succ fuel ih =>
      obtain ⟨ihTerm, ihExpr⟩ := ih
      constructor
      · have hbody := sound_operations "*" "/" ihTerm (sound_factor ihExpr) .product .quotient
          .factor
          (fun left right a b v ha hb hv => ⟨by simp [Formula.written],
            Formula.value?_product.2 ⟨a, b, ha, hb, hv⟩⟩)
          (fun left right a b v ha hb hv => ⟨by simp [Formula.written],
            Formula.value?_quotient.2 ⟨a, b, ha, hb, hv⟩⟩)
          fun f => ⟨rfl, rfl⟩
        rw [← hterm] at hbody ⊢
        exact SoundWith.ref rfl hbody
      · have hbody := sound_operations "+" "-" ihExpr ihTerm .sum .difference .term
          (fun left right a b v ha hb hv => ⟨by simp [Formula.written],
            Formula.value?_sum.2 ⟨a, b, ha, hb, hv⟩⟩)
          (fun left right a b v ha hb hv => ⟨by simp [Formula.written],
            Formula.value?_difference.2 ⟨a, b, ha, hb, hv⟩⟩)
          fun f => ⟨rfl, rfl⟩
        rw [← hexpr] at hbody ⊢
        exact SoundWith.ref rfl hbody

/-- A run over the whole input that succeeds has calculated a formula. -/
theorem calculates_of_complete (hkeys : exprKey ≠ termKey) {fuel : Nat} {ctx : Context}
    {state after : State ArithmeticSignature T} {s : Success Int} (hstate : state.NoEntries)
    (hrun : (arithmeticGrammar parity termKey exprKey).run input fuel
      (Parser.ref (S := ArithmeticSignature) .expr).complete 0 ctx state =
        .done (.success s) after) :
    ∃ f : Formula .expr, f.written = input.tokens ∧ f.value? = some s.value := by
  obtain ⟨-, hexpr⟩ : _ ∧ SoundWith (T := T) (arithmeticGrammar parity termKey exprKey) input
      (State.Means input (keyMeaning termKey)) fuel (.ref (S := ArithmeticSignature) .expr)
      (Calculates .expr) := sound_rules hkeys fuel
  exact hexpr.complete hstate.means hrun

end Rules

end Samples
end LeftRec
