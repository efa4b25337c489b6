import LeftRec.Memo.Ordered
import LeftRec.Proofs.Answers
import LeftRec.Proofs.Calculation
import LeftRec.Proofs.Tiers
import LeftRec.Proofs.Unambiguity

/-!
# Arithmetic — the grammar computes

Whatever text has a formula whose value is defined is parsed to that value, and nothing else is
parsed.  The formula is followed from its parts to the whole: a factor is found as it stands, and
each operation of a term or an expression is found one level further out than its left side.
-/

namespace LeftRec
namespace Samples

open Grammar (Yields Refuses yields_text)

variable {T : Type → Type} [MemoTable T]

/-! ## The two tiers -/

def termTier (parity : Parity) (termKey exprKey : Key) :
    Tier (arithmeticGrammar parity termKey exprKey) where
  rule := .term
  parity := parity
  key := termKey
  one := ⟨"*", by decide, Checked.multiply⟩
  other := ⟨"/", by decide, Checked.divide⟩
  operand := factor
  defined := rfl

def exprTier (parity : Parity) (termKey exprKey : Key) :
    Tier (arithmeticGrammar parity termKey exprKey) where
  rule := .expr
  parity := parity
  key := exprKey
  one := ⟨"+", by decide, Checked.add⟩
  other := ⟨"-", by decide, Checked.subtract⟩
  operand := (termTier parity termKey exprKey).self
  defined := rfl

/-! ## What may follow -/

/-- No character that would make the formula longer comes next. -/
theorem Level.EndsBefore.startsWith {level : Level} {input : Input ArithmeticSignature.Token}
    {pos : Nat} (h : level.EndsBefore (input.rest pos)) {c : ArithmeticSignature.Token}
    (hc : level.extends c = true) (more : List ArithmeticSignature.Token) :
    input.startsWith pos (c :: more) = false := by
  refine Input.startsWith_of_head fun hhead => ?_
  rw [h c hhead] at hc
  cases hc

/-! ## Fuel -/

/-- How much fuel a factor takes before so many tokens.  In the worst case every token opens a
parenthesis, inside of which both rules descend once for each token that is left. -/
def factorFuel (remaining : Nat) : Nat :=
  (remaining + 3) * (remaining + 3)

def termFuel (remaining : Nat) : Nat :=
  factorFuel remaining + remaining + 2

def exprFuel (remaining : Nat) : Nat :=
  termFuel remaining + remaining + 2

theorem factorFuel_mono {r r' : Nat} (h : r ≤ r') : factorFuel r ≤ factorFuel r' :=
  Nat.mul_le_mul (by omega) (by omega)

theorem exprFuel_le (remaining : Nat) : exprFuel remaining ≤ factorFuel (remaining + 1) := by
  simp only [exprFuel, termFuel, factorFuel, Nat.add_mul, Nat.mul_add]
  omega

theorem le_factorFuel (remaining : Nat) : remaining + 3 ≤ factorFuel remaining :=
  Nat.le_mul_of_pos_left (remaining + 3) (by omega)

theorem two_le_factorFuel (remaining : Nat) : 2 ≤ factorFuel remaining := by
  have henough := le_factorFuel remaining
  omega

theorem termFuel_mono {r r' : Nat} (h : r ≤ r') : termFuel r ≤ termFuel r' := by
  have hfactor := factorFuel_mono h
  simp only [termFuel]
  omega

theorem two_le_termFuel (remaining : Nat) : 2 ≤ termFuel remaining := by
  simp only [termFuel]
  omega

theorem exprFuel_le_ampleFuel {remaining : Nat} (h : remaining < 2 ^ 32) :
    exprFuel remaining ≤ Grammar.ampleFuel :=
  calc exprFuel remaining ≤ factorFuel (remaining + 1) := exprFuel_le remaining
    _ ≤ factorFuel (2 ^ 32) := factorFuel_mono h
    _ ≤ Grammar.ampleFuel := by decide

/-! ## Factors -/

section Factors

variable {G : Grammar ArithmeticSignature} {input : Input ArithmeticSignature.Token}
variable {fuel : Nat} {keys : List Key} {pos start middle stop : Nat} {v : Int} {ctx : Context}
variable {state next : State ArithmeticSignature T}

theorem not_isDigit_of_endsBefore {level : Level} (h : level.EndsBefore (input.rest stop)) :
    ∀ t after, input.next? stop = some (t, after) → Char.isDigit t = false := by
  intro t after hnext
  obtain ⟨t', hhead, heq⟩ := Option.map_eq_some_iff.1 hnext
  obtain ⟨rfl, -⟩ := Prod.mk.inj heq
  exact h.factor t' hhead

/-- Digits are read up to the first character that is none. -/
theorem yields_number {digits : List ArithmeticSignature.Token} (hnonempty : digits ≠ [])
    (hdecimal : ∀ c ∈ digits, Char.isDigit c = true) (hread : input.Reads pos digits stop)
    (hends : Level.factor.EndsBefore (input.rest stop))
    (hv : digits.foldlM Parser.appendDigit 0 = .ok v) (hfuel : input.remaining pos < fuel)
    (ctx : Context) (state : State ArithmeticSignature T) :
    Yields G input (fuel + 1) Parser.number keys pos ctx state v stop state := by
  have hremaining := hread.remaining_eq
  have hdigits : Yields G input (fuel + 1)
      (Parser.token (S := ArithmeticSignature) Char.isDigit "digit").many1 keys pos ctx state digits
      stop state :=
    Grammar.yields_many1_token "digit" hread hnonempty hdecimal (not_isDigit_of_endsBefore hends)
      (by omega)
  exact (hdigits.tryMap hv).label "number"

/-- A number is not begun by another character than a digit. -/
theorem refuses_number (h : Level.factor.EndsBefore (input.rest pos)) (ctx : Context)
    (state : State ArithmeticSignature T) :
    Refuses G input (fuel + 1) Parser.number keys pos ctx state state := by
  have hdigit : Refuses G input (fuel + 1)
      (.token (S := ArithmeticSignature) Char.isDigit "digit") keys pos ctx state state :=
    Grammar.refuses_token "digit" (not_isDigit_of_endsBefore h)
  exact ((hdigit.zipWith_left (· :: ·) _).tryMap _).label "number"

theorem finds_number {digits : List ArithmeticSignature.Token} (hnonempty : digits ≠ [])
    (hdecimal : ∀ c ∈ digits, Char.isDigit c = true) (hread : input.Reads pos digits stop)
    (hends : Level.factor.EndsBefore (input.rest stop))
    (hv : digits.foldlM Parser.appendDigit 0 = .ok v) :
    Finds T G input (factorFuel (input.remaining pos)) [] pos factor v stop where
  ahead := hread.lt hnonempty
  run fuel ctx state hfuel hctx hstate := by
    have hyields : ∀ fuel ctx (state : State ArithmeticSignature T),
        factorFuel (input.remaining pos) ≤ fuel →
          Yields G input fuel factor [] pos ctx state v stop state := by
      intro fuel ctx state hfuel
      have henough := le_factorFuel (input.remaining pos)
      obtain ⟨fuel, rfl⟩ : ∃ n, fuel = n + 1 := ⟨fuel - 1, by omega⟩
      exact (yields_number hnonempty hdecimal hread hends hv (by omega) ctx state).alt_left _
    refine ⟨state, hyields fuel ctx state hfuel, fun _ _ _ _ => rfl, ?_⟩
    intro fuel ctx later hfuel hlater
    exact ⟨later, hyields fuel ctx later hfuel, rfl⟩

theorem openSign_ne_nil : "(".toList ≠ [] := by decide

theorem closeSign_ne_nil : ")".toList ≠ [] := by decide

/-- Two parentheses around an expression leave everything as the expression leaves it.  It lies
further on, so which rules it uses does not matter outside. -/
theorem yields_parens (hopen : input.Reads pos "(".toList start)
    (hclose : input.Reads middle ")".toList stop) (hmiddle : start < middle)
    (hexpr : Yields G input (fuel + 1) (.ref (S := ArithmeticSignature) .expr) keys start ∅ state v
      middle next) :
    Yields G input (fuel + 1) factor [] pos ctx state v stop next := by
  have hstart : pos < start := hopen.lt openSign_ne_nil
  have hstop : middle < stop := hclose.lt closeSign_ne_nil
  have hnumber : Level.factor.EndsBefore (input.rest pos) := by
    intro c hc
    rw [hopen.rest_eq] at hc
    obtain rfl := Option.some.inj hc
    rfl
  have hopened : Yields G input (fuel + 1) (Parser.text "(") [] pos ctx state
      (String.ofList "(".toList) start state := yields_text hopen openSign_ne_nil
  have hclosed : Yields G input (fuel + 1) (Parser.text ")") [] middle (ctx.carried pos middle) next
      (String.ofList ")".toList) stop next := yields_text hclose closeSign_ne_nil
  have hempty : ctx.carried pos start = ∅ := if_neg (Nat.ne_of_lt hstart)
  rw [← hempty] at hexpr
  have hfirst := hopened.zipWith_of_ne (fun _ b => b) hexpr (by omega)
  have hboth := hfirst.zipWith_of_ne (fun a _ => a) hclosed (by omega)
  exact Yields.alt_right (refuses_number hnumber ctx state) hboth

theorem finds_parens (hopen : input.Reads pos "(".toList start)
    (hclose : input.Reads middle ")".toList stop)
    (hexpr : Finds T G input (exprFuel (input.remaining start)) keys start
      (.ref (S := ArithmeticSignature) .expr) v middle) :
    Finds T G input (factorFuel (input.remaining pos)) [] pos factor v stop := by
  have hstart : pos < start := hopen.lt openSign_ne_nil
  have hmiddle := hexpr.ahead
  have hstop : middle < stop := hclose.lt closeSign_ne_nil
  have hremaining : input.remaining pos = input.remaining start + 1 :=
    hopen.remaining_eq.trans (Nat.add_comm 1 _)
  have hfuels := exprFuel_le (input.remaining start)
  have henough := le_factorFuel (input.remaining pos)
  rw [← hremaining] at hfuels
  -- What the expression stores lies between the two parentheses, whatever its keys are.
  have hinside : ∀ slot, Inside keys start middle slot → Inside [] pos stop slot := by
    intro slot hslot
    exact .inl (by rcases hslot with ⟨hfrom, hto⟩ | ⟨hat, -⟩ <;> omega)
  refine ⟨by omega, fun fuel ctx state hfuel hctx hstate => ?_⟩
  obtain ⟨fuel, rfl⟩ : ∃ n, fuel = n + 1 := ⟨fuel - 1, by omega⟩
  have hbehind : state.FreshFrom start := fun kind key there hthere =>
    hstate kind key there (by omega)
  obtain ⟨next, hyields, hsame, hknown⟩ := hexpr.run (fuel + 1) ∅ state (by omega)
    (Context.untracked_empty keys) hbehind
  refine ⟨next, yields_parens hopen hclose hmiddle hyields,
    hsame.mono fun slot houtside hslot => houtside (hinside slot hslot), ?_⟩
  intro fuel ctx later hfuel hlater
  obtain ⟨fuel, rfl⟩ : ∃ n, fuel = n + 1 := ⟨fuel - 1, by omega⟩
  obtain ⟨again, hyields, hmemo⟩ := hknown (fuel + 1) ∅ later (by omega) (hlater.mono hinside)
  exact ⟨again, yields_parens hopen hclose hmiddle hyields, hmemo⟩

end Factors

/-! ## Formulas -/

section Formulas

variable [LawfulMemoTable T] {parity : Parity} {termKey exprKey : Key}
variable {input : Input ArithmeticSignature.Token} {pos stop : Nat} {v : Int}

/-- What the grammar makes of a formula of a level between two positions.  A term or an expression
is reached by some level of its rule, and there are no more levels inside than tokens were read. -/
def Met (T : Type → Type) [MemoTable T] [LawfulMemoTable T] (parity : Parity)
    (termKey exprKey : Key) (input : Input ArithmeticSignature.Token) (pos : Nat) (v : Int)
    (stop : Nat) : Level → Prop
  | .factor => Finds T (arithmeticGrammar parity termKey exprKey) input
      (factorFuel (input.remaining pos)) [] pos factor v stop
  | .term => ∃ n, n + input.remaining stop ≤ input.remaining pos ∧
      (termTier parity termKey exprKey).Reaches T input (factorFuel (input.remaining pos)) [] pos n
        v stop
  | .expr => ∃ n, n + input.remaining stop ≤ input.remaining pos ∧
      (exprTier parity termKey exprKey).Reaches T input (termFuel (input.remaining pos)) [termKey]
        pos n v stop

variable {start middle need : Nat} {a b : Int} {keys : List Key}
variable {G : Grammar ArithmeticSignature} {tier : Tier G} {operator : Operator}

/-- A level further out finds one operation more, and the operation's sign is one token more. -/
theorem reaches_operation (hlength : input.tokens.length < 2 ^ 32 - 2) (hkey : tier.key ∉ keys)
    (hneed : 2 ≤ need)
    (hleft : ∃ n, n + input.remaining middle ≤ input.remaining pos ∧
      tier.Reaches T input need keys pos n a middle)
    (hsign : input.Reads middle operator.sign.toList start)
    (hright : Finds T G input need keys start tier.operand b stop)
    (hless : input.remaining stop < input.remaining middle) (hv : operator.apply a b = .ok v)
    (hoperator : operator = tier.one ∨
      operator = tier.other ∧ input.startsWith middle tier.one.sign.toList = false) :
    ∃ n, n + input.remaining stop ≤ input.remaining pos ∧
      tier.Reaches T input need keys pos n v stop := by
  obtain ⟨n, hn, hreaches⟩ := hleft
  have hfollows : Tier.Follows T tier input need keys middle operator a v stop :=
    ⟨start, b, hsign, hright, hv⟩
  refine ⟨n + 1, by omega, ?_⟩
  rcases hoperator with rfl | ⟨rfl, hone⟩
  · exact Tier.reaches_one hlength hkey hreaches hfollows
  · exact Tier.reaches_other hlength hkey hneed hreaches hone hfollows

/-- Once nothing follows that would make a term longer, the rule of terms finds it. -/
theorem finds_term (hlength : input.tokens.length < 2 ^ 32 - 2)
    (hmet : Met T parity termKey exprKey input pos v stop .term)
    (hends : Level.term.EndsBefore (input.rest stop)) :
    Finds T (arithmeticGrammar parity termKey exprKey) input (termFuel (input.remaining pos))
      [termKey] pos (termTier parity termKey exprKey).self v stop := by
  obtain ⟨n, hn, hreaches⟩ := hmet
  have hsigns : (termTier parity termKey exprKey).EndsAt input stop := by
    constructor
    · show input.startsWith stop "*".toList = false
      exact hends.startsWith rfl []
    · show input.startsWith stop "/".toList = false
      exact hends.startsWith rfl []
  exact Tier.finds_self (two_le_factorFuel _) (Tier.reaches_of_le hlength List.not_mem_nil
    (two_le_factorFuel _) hsigns hreaches (by omega))

theorem finds_expr (hkeys : exprKey ≠ termKey) (hlength : input.tokens.length < 2 ^ 32 - 2)
    (hmet : Met T parity termKey exprKey input pos v stop .expr)
    (hends : Level.expr.EndsBefore (input.rest stop)) :
    Finds T (arithmeticGrammar parity termKey exprKey) input (exprFuel (input.remaining pos))
      [exprKey, termKey] pos (exprTier parity termKey exprKey).self v stop := by
  obtain ⟨n, hn, hreaches⟩ := hmet
  have hsigns : (exprTier parity termKey exprKey).EndsAt input stop := by
    constructor
    · show input.startsWith stop "+".toList = false
      exact hends.startsWith rfl []
    · show input.startsWith stop "-".toList = false
      exact hends.startsWith rfl []
  exact Tier.finds_self (two_le_termFuel _) (Tier.reaches_of_le hlength
    (fun hmem => hkeys (List.mem_singleton.1 hmem)) (two_le_termFuel _) hsigns hreaches (by omega))

/-- What follows a sign between two formulas does not make the first one longer. -/
theorem endsBefore_of_reads {level : Level} {c : ArithmeticSignature.Token}
    (hread : input.Reads middle [c] start) (hc : level.extends c = false) :
    level.EndsBefore (input.rest middle) := by
  intro t ht
  rw [hread.rest_eq] at ht
  obtain rfl := Option.some.inj ht
  exact hc

/-- A sign and what stands behind it take a token at least. -/
theorem remaining_lt_of_reads {word : List ArithmeticSignature.Token}
    {c : ArithmeticSignature.Token} (hsign : input.Reads middle [c] start)
    (hright : input.Reads start word stop) : input.remaining stop < input.remaining middle :=
  Nat.lt_of_le_of_lt hright.remaining_le
    (hsign.remaining_lt (Nat.ne_of_gt (hsign.lt (List.cons_ne_nil c []))))

/-- Where one sign stands there is no other. -/
theorem startsWith_of_reads {c d : ArithmeticSignature.Token} (hread : input.Reads middle [c] start)
    (hne : c ≠ d) : input.startsWith middle [d] = false := by
  refine Input.startsWith_of_head fun hhead => hne ?_
  rw [hread.rest_eq] at hhead
  exact Option.some.inj hhead

/-- An operation makes a longer expression. -/
theorem met_expr (hkeys : exprKey ≠ termKey) (hlength : input.tokens.length < 2 ^ 32 - 2)
    {operator : Operator}
    (hoperator : operator = (exprTier parity termKey exprKey).one ∨
      operator = (exprTier parity termKey exprKey).other ∧
        input.startsWith middle (exprTier parity termKey exprKey).one.sign.toList = false)
    (hleft : Met T parity termKey exprKey input pos a middle .expr)
    (hsign : input.Reads middle operator.sign.toList start)
    (hright : Met T parity termKey exprKey input start b stop .term)
    (hends : Level.term.EndsBefore (input.rest stop)) (hv : operator.apply a b = .ok v)
    (hstart : input.remaining start ≤ input.remaining pos)
    (hstop : input.remaining stop < input.remaining middle) :
    Met T parity termKey exprKey input pos v stop .expr :=
  reaches_operation hlength (fun hmem => hkeys (List.mem_singleton.1 hmem)) (two_le_termFuel _)
    hleft hsign ((finds_term hlength hright hends).mono (termFuel_mono hstart)) hstop hv hoperator

/-- An operation makes a longer term. -/
theorem met_term (hlength : input.tokens.length < 2 ^ 32 - 2) {operator : Operator}
    (hoperator : operator = (termTier parity termKey exprKey).one ∨
      operator = (termTier parity termKey exprKey).other ∧
        input.startsWith middle (termTier parity termKey exprKey).one.sign.toList = false)
    (hleft : Met T parity termKey exprKey input pos a middle .term)
    (hsign : input.Reads middle operator.sign.toList start)
    (hright : Met T parity termKey exprKey input start b stop .factor)
    (hv : operator.apply a b = .ok v) (hstart : input.remaining start ≤ input.remaining pos)
    (hstop : input.remaining stop < input.remaining middle) :
    Met T parity termKey exprKey input pos v stop .term :=
  reaches_operation hlength List.not_mem_nil (two_le_factorFuel _) hleft hsign
    (hright.mono (factorFuel_mono hstart)) hstop hv hoperator

/-- The induction is on the formula.  The right side of an operation ends where the whole does, so
what follows has to be known only not to make a formula of the right side's level longer. -/
theorem met (hkeys : exprKey ≠ termKey) (hlength : input.tokens.length < 2 ^ 32 - 2)
    {level : Level} (f : Formula level) {pos stop : Nat} {v : Int}
    (hread : input.Reads pos f.written stop) (hends : level.below.EndsBefore (input.rest stop))
    (hv : f.value? = some v) : Met T parity termKey exprKey input pos v stop level := by
  induction f generalizing pos stop v with
  | sum left right ihLeft ihRight =>
      obtain ⟨a, b, ha, hb, hv⟩ := Formula.value?_sum.1 hv
      obtain ⟨middle, hleft, hsigned⟩ := hread.split
      obtain ⟨start, hsign, hright⟩ := hsigned.split_cons
      have hplus : input.Reads middle "+".toList start := hsign
      exact met_expr hkeys hlength (.inl rfl) (ihLeft hleft (endsBefore_of_reads hsign rfl) ha)
        hplus (ihRight hright hends.factor hb) hends hv
        (hsign.remaining_le.trans hleft.remaining_le) (remaining_lt_of_reads hsign hright)
  | difference left right ihLeft ihRight =>
      obtain ⟨a, b, ha, hb, hv⟩ := Formula.value?_difference.1 hv
      obtain ⟨middle, hleft, hsigned⟩ := hread.split
      obtain ⟨start, hsign, hright⟩ := hsigned.split_cons
      have hminus : input.Reads middle "-".toList start := hsign
      have hother : ('-' : ArithmeticSignature.Token) ≠ '+' := Char.ne_of_val_ne (by decide)
      have hplus : input.startsWith middle "+".toList = false := startsWith_of_reads hsign hother
      exact met_expr hkeys hlength (.inr ⟨rfl, hplus⟩)
        (ihLeft hleft (endsBefore_of_reads hsign rfl) ha) hminus (ihRight hright hends.factor hb)
        hends hv (hsign.remaining_le.trans hleft.remaining_le) (remaining_lt_of_reads hsign hright)
  -- An operand that stands alone is what the innermost level finds.
  | term single ih =>
      have hterm := finds_term hlength (ih hread hends.factor hv) hends
      have hreaches : (exprTier parity termKey exprKey).Reaches T input _ [termKey] pos 0 v stop :=
        Tier.reaches_operand hlength (fun hmem => hkeys (List.mem_singleton.1 hmem))
          (two_le_termFuel _) hterm
      exact ⟨0, by rw [Nat.zero_add]; exact hread.remaining_le, hreaches⟩
  | product left right ihLeft ihRight =>
      obtain ⟨a, b, ha, hb, hv⟩ := Formula.value?_product.1 hv
      obtain ⟨middle, hleft, hsigned⟩ := hread.split
      obtain ⟨start, hsign, hright⟩ := hsigned.split_cons
      have htimes : input.Reads middle "*".toList start := hsign
      exact met_term hlength (.inl rfl) (ihLeft hleft (endsBefore_of_reads hsign rfl) ha)
        htimes (ihRight hright hends hb) hv (hsign.remaining_le.trans hleft.remaining_le)
        (remaining_lt_of_reads hsign hright)
  | quotient left right ihLeft ihRight =>
      obtain ⟨a, b, ha, hb, hv⟩ := Formula.value?_quotient.1 hv
      obtain ⟨middle, hleft, hsigned⟩ := hread.split
      obtain ⟨start, hsign, hright⟩ := hsigned.split_cons
      have hover : input.Reads middle "/".toList start := hsign
      have hother : ('/' : ArithmeticSignature.Token) ≠ '*' := Char.ne_of_val_ne (by decide)
      have htimes : input.startsWith middle "*".toList = false := startsWith_of_reads hsign hother
      exact met_term hlength (.inr ⟨rfl, htimes⟩)
        (ihLeft hleft (endsBefore_of_reads hsign rfl) ha) hover (ihRight hright hends hb) hv
        (hsign.remaining_le.trans hleft.remaining_le) (remaining_lt_of_reads hsign hright)
  | factor single ih =>
      have hreaches : (termTier parity termKey exprKey).Reaches T input _ [] pos 0 v stop :=
        Tier.reaches_operand hlength List.not_mem_nil (two_le_factorFuel _) (ih hread hends hv)
      exact ⟨0, by rw [Nat.zero_add]; exact hread.remaining_le, hreaches⟩
  | number digits nonempty decimal =>
      exact finds_number nonempty decimal hread hends (number_eq_ok.2 hv)
  | parens inner ih =>
      obtain ⟨start, hopen, hrest⟩ := hread.split_cons
      obtain ⟨middle, hinner, hclose⟩ := hrest.split
      have hopen' : input.Reads pos "(".toList start := hopen
      have hclose' : input.Reads middle ")".toList stop := hclose
      have hexpr := finds_expr hkeys hlength
        (ih hinner (endsBefore_of_reads hclose rfl) hv) (endsBefore_of_reads hclose rfl)
      exact finds_parens hopen' hclose' hexpr

end Formulas

/-! ## Whole parses -/

/-- The grammar is built with two distinct keys, and nothing but the supply of keys changes. -/
theorem building_arithmetic {T : Type → Type} {β : Type} (parity : Parity)
    (next : Language ArithmeticSignature Int → Eval (State ArithmeticSignature T) β)
    (state : State ArithmeticSignature T) :
    ∃ n workshop, Eval.building (arithmetic parity) next state =
      next ⟨arithmeticGrammar parity (.id n) (.id (n + 1)), .ref (S := ArithmeticSignature) .expr⟩
        { state with workshop } :=
  ⟨state.workshop.supply.key, _, rfl⟩

variable [LawfulMemoTable T]

/-- A whole input that is a formula is read from one end to the other. -/
theorem run_complete_of_formula {parity : Parity} {termKey exprKey : Key}
    {input : Input ArithmeticSignature.Token} (hkeys : exprKey ≠ termKey)
    (hlength : input.tokens.length < 2 ^ 32 - 2) {f : Formula .expr}
    (hwritten : f.written = input.tokens) {v : Int} (hv : f.value? = some v)
    {state : State ArithmeticSignature T} (hstate : state.NoEntries) :
    ∃ s after, (arithmeticGrammar parity termKey exprKey).run input Grammar.ampleFuel
      (Parser.ref (S := ArithmeticSignature) .expr).complete 0 ∅ state = .done (.success s) after ∧
        s.value = v := by
  have hstart : input.rest (Input.span input.width []) = input.tokens := Input.rest_of_append rfl
  have hread : input.Reads 0 f.written input.extent := by
    rw [hwritten, ← hstart]
    exact Input.reads_rest Input.boundary_zero
  have hends : ∀ level : Level, level.EndsBefore (input.rest input.extent) := by
    intro level c hc
    rw [Input.rest_extent] at hc
    cases hc
  have hmet : Met T parity termKey exprKey input 0 v input.extent .expr :=
    met hkeys hlength f hread (hends _) hv
  have hremaining := input.remaining_le_length 0
  have hfuel : exprFuel (input.remaining 0) ≤ Grammar.ampleFuel :=
    exprFuel_le_ampleFuel (by omega)
  obtain ⟨next, hyields, -⟩ := (finds_expr hkeys hlength hmet (hends _)).run Grammar.ampleFuel ∅
    state hfuel (Context.untracked_empty _) (hstate.freshFrom 0)
  obtain ⟨fuel, hample⟩ : ∃ n, Grammar.ampleFuel = n + 1 := ⟨Grammar.ampleFuel - 1, rfl⟩
  rw [hample] at hyields ⊢
  exact hyields.complete

/-- The grammar computes ordinary arithmetic: a whole text is parsed to a value exactly if it is the
text of a formula, and then of one only, whose value is defined and is that value. -/
theorem arithmetic_computes (parity : Parity) (text : String)
    (hlength : text.length < 2 ^ 32 - 2) (state : State ArithmeticSignature T) (v : Int) :
    (∃ s after, Eval.building (arithmetic parity)
        (fun L => L.parse (Input.ofText text) true) state = .done (.success s) after ∧
          s.value = v) ↔
      ∃ f : Formula .expr, f.written = text.toList ∧ f.value? = some v ∧
        ∀ g : Formula .expr, g.written = text.toList → g = f := by
  obtain ⟨n, workshop, hbuilding⟩ := building_arithmetic parity
    (fun L => L.parse (Input.ofText text) true) state
  have hkeys : Key.id (n + 1) ≠ Key.id n := fun heq => by
    have hsame := Key.id.inj heq
    omega
  have htokens : (Input.ofText text).tokens.length < 2 ^ 32 - 2 := by
    rw [← text.length_toList] at hlength
    exact hlength
  rw [hbuilding]
  refine Grammar.parse_eq_success.trans ⟨?_, ?_⟩
  · rintro ⟨s, after, hrun, rfl⟩
    obtain ⟨f, hwritten, hv⟩ := calculates_of_complete hkeys (State.noEntries_clear _) hrun
    exact ⟨f, hwritten, hv, fun g hg => Formula.eq_of_written_eq (hg.trans hwritten.symm)⟩
  · rintro ⟨f, hwritten, hv, -⟩
    exact run_complete_of_formula hkeys htokens hwritten hv (State.noEntries_clear _)

/-- Products bind tighter than sums, operations of one level group to the left, and parentheses
come first. -/
theorem arithmetic_computes_mixed :
    "(1+2)*3-8/2/2".length < 2 ^ 32 - 2 ∧
      ∃ s after, Eval.building (arithmetic .even)
        (fun L => L.parse (Input.ofText "(1+2)*3-8/2/2") true)
          (.new : State ArithmeticSignature OrderedTable) = .done (.success s) after ∧
        s.value = 7 := by
  let one (c : Char) (hc : c.isDigit = true) : Formula .factor :=
    .number [c] (List.cons_ne_nil c []) (List.forall_mem_singleton.2 hc)
  let inner : Formula .expr :=
    .sum (.term (.factor (one '1' rfl))) (.factor (one '2' rfl))
  let left : Formula .term := .product (.factor (.parens inner)) (one '3' rfl)
  let right : Formula .term :=
    .quotient (.quotient (.factor (one '8' rfl)) (one '2' rfl)) (one '2' rfl)
  have hlength : "(1+2)*3-8/2/2".length < 2 ^ 32 - 2 := by decide
  refine ⟨hlength, (arithmetic_computes .even _ hlength .new 7).2 ?_⟩
  let whole : Formula .expr := .difference (.term left) right
  have hwritten : whole.written = "(1+2)*3-8/2/2".toList := by decide
  exact ⟨whole, hwritten, by decide, fun g hg => Formula.eq_of_written_eq (hg.trans hwritten.symm)⟩

end Samples
end LeftRec
