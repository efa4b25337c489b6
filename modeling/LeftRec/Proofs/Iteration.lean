import Mathlib.Algebra.Group.Nat.Defs
import LeftRec.Memo.Ordered
import LeftRec.Proofs.Recursion
import LeftRec.Samples.Subtraction

/-!
# Iteration — what direct left recursion comes to

A rule that is `rule step | base` does what `base` followed by any number of steps does: where both
know enough, they come to one value and one end, to one error at one position, or to one fault.
-/

namespace LeftRec

variable {S : Signature} {T : Type → Type} {α β : Type}

/-! ## Iteration -/

/-- The values of some steps joined to a first value, from the left. -/
def foldSteps (join : α × β → α) (a : α) (bs : List β) : α :=
  bs.foldl (fun a b => join (a, b)) a

section WithUsed

variable (o : Outcome α) (used used' : Used)

@[simp]
theorem Outcome.withUsed_withUsed : (o.withUsed used).withUsed used' = o.withUsed used' := by
  cases o with
  | success s => rfl
  | failure e => rfl

@[simp]
theorem Outcome.withUsed_map (f : α → β) : (o.map f).withUsed used = (o.withUsed used).map f := by
  cases o with
  | success s => rfl
  | failure e => rfl

@[simp]
theorem Outcome.withUsed_after (start : Nat) :
    (o.after start used').withUsed used = o.withUsed used :=
  o.withUsed_withUsed _ _

@[simp]
theorem Outcome.map_map {γ : Type} (f : α → β) (g : β → γ) :
    (o.map f).map g = o.map fun a => g (f a) := by
  cases o with
  | success s => rfl
  | failure e => rfl

end WithUsed

/-- The same fault, or outcomes that differ in nothing but their used sets. -/
def Alike (v w : Except Fault (Outcome α)) : Prop :=
  v.map (Outcome.withUsed ∅) = w.map (Outcome.withUsed ∅)

namespace Run

variable {input : Input S.Token} {pos : Nat} (growth : Growth input pos α β) {step : Run S T β}
variable {fuel : Nat}

/-- What a repetition from a success on comes to, its values folded, is what grows out of it. -/
theorem manyFrom_grown (hstep : ∀ middle ctx, input.Boundary middle →
      input.remaining middle < fuel → step middle ctx = Eval.ofExcept (growth.steps middle))
    {rounds n : Nat} {s : Success α} (hs : input.Boundary s.pos)
    (hfuel : input.remaining s.pos < fuel) (hrounds : input.remaining s.pos < rounds)
    (hn : input.remaining s.pos < n) :
    ∃ w, manyFrom step rounds s.pos = Eval.ofExcept w ∧
      Alike (w.map (Outcome.map (foldSteps growth.join s.value))) (growth.grown n s) := by
  -- Rounds and steps both outnumber the tokens, and each pair of them takes one at least.
  induction n generalizing rounds s with
  | zero => omega
  | succ n ih =>
      obtain ⟨left, rfl⟩ : ∃ left, rounds = left + 1 := ⟨rounds - 1, by omega⟩
      rw [manyFrom, hstep s.pos ∅ hs hfuel, Growth.grown]
      cases hfirst : growth.steps s.pos with
      | error fault => exact ⟨.error fault, rfl, rfl⟩
      | ok first =>
          cases first with
          | failure e =>
              refine ⟨.ok (if e.isFatal then .failure e else .yield [] s.pos), rfl, ?_⟩
              cases he : e.isFatal with
              | true =>
                  simp only [he, if_true]
                  rfl
              | false =>
                  simp only [he, Bool.false_eq_true, if_false]
                  rfl
          | success t =>
              obtain ⟨word, hword⟩ := (growth.steps_clean s.pos _ hs hfirst).onward
              have hmove : t.pos ≠ s.pos := growth.steps_move s.pos t hs hfirst
              -- The step consumed something, so what follows it is a repetition with fewer tokens.
              have hless : input.remaining t.pos < input.remaining s.pos := hword.remaining_lt hmove
              obtain ⟨w, hmany, halike⟩ := ih (s := growth.extend s t)
                (hword.boundary hs) (Nat.lt_trans hless hfuel)
                (Nat.lt_of_lt_of_le hless (Nat.le_of_lt_succ hrounds))
                (Nat.lt_of_lt_of_le hless (Nat.le_of_lt_succ hn))
              have hmany : manyFrom step left t.pos = Eval.ofExcept w := hmany
              refine ⟨w.map (Outcome.map (t.value :: ·)), ?_, ?_⟩
              · show (if t.pos = s.pos then _ else _) = _
                rw [if_neg hmove, hmany]
                rcases w with fault | o
                · rfl
                · rfl
              · refine Eq.trans ?_ halike
                rcases w with fault | o
                · rfl
                · simp [Except.map]
                  rfl

/-- Of the first round, too, only the used set is lost. -/
theorem many_grown (hstep : ∀ middle ctx, input.Boundary middle →
      input.remaining middle < fuel → step middle ctx = Eval.ofExcept (growth.steps middle))
    {n : Nat} {s : Success α} (hs : input.Boundary s.pos) (hfuel : input.remaining s.pos < fuel)
    (hn : input.remaining s.pos < n) (ctx : Context) :
    ∃ w, many fuel step s.pos ctx = Eval.ofExcept w ∧
      Alike (w.map (Outcome.map (foldSteps growth.join s.value))) (growth.grown n s) := by
  obtain ⟨n, rfl⟩ : ∃ m, n = m + 1 := ⟨n - 1, by omega⟩
  rw [many, hstep s.pos ctx hs hfuel, Growth.grown]
  cases hfirst : growth.steps s.pos with
  | error fault => exact ⟨.error fault, rfl, rfl⟩
  | ok first =>
      cases first with
      | failure e =>
          refine ⟨.ok (if e.isFatal then .failure e else .success ⟨[], s.pos, e.used⟩), rfl, ?_⟩
          cases he : e.isFatal with
          | true =>
              simp only [he, if_true]
              rfl
          | false =>
              simp only [he, Bool.false_eq_true, if_false]
              rfl
      | success t =>
          obtain ⟨word, hword⟩ := (growth.steps_clean s.pos _ hs hfirst).onward
          have hmove : t.pos ≠ s.pos := growth.steps_move s.pos t hs hfirst
          have hless : input.remaining t.pos < input.remaining s.pos := hword.remaining_lt hmove
          obtain ⟨w, hmany, halike⟩ := manyFrom_grown growth hstep
            (s := growth.extend s t) (n := n) (hword.boundary hs) (Nat.lt_trans hless hfuel)
            (Nat.lt_trans hless hfuel) (Nat.lt_of_lt_of_le hless (Nat.le_of_lt_succ hn))
          have hmany : manyFrom step fuel t.pos = Eval.ofExcept w := hmany
          refine ⟨w.map fun o => (o.map (t.value :: ·)).withUsed t.used, ?_, ?_⟩
          · show (if t.pos = s.pos then _ else _) = _
            rw [if_neg hmove, hmany]
            rcases w with fault | o
            · rfl
            · rfl
          · refine Eq.trans ?_ halike
            rcases w with fault | o
            · rfl
            · simp [Except.map]
              rfl

/-- `base` and any number of steps, with their values folded, come to what the outermost level of
the recursion finds. -/
theorem iterate_level (hpos : input.Boundary pos) {base : Run S T α} {ctx : Context}
    (hbase : base pos ctx = Eval.ofExcept growth.start)
    (hstep : ∀ middle ctx, input.Boundary middle → input.remaining middle < fuel →
      step middle ctx = Eval.ofExcept (growth.steps middle))
    (hfuel : input.remaining pos < fuel) :
    ∃ w, tryMap (fun pair => .ok (foldSteps growth.join pair.1 pair.2))
        (zipWith Prod.mk base (many fuel step)) pos ctx = Eval.ofExcept w ∧
      Alike w (growth.level (input.remaining pos + 1)) := by
  rw [tryMap, zipWith, hbase, Growth.level]
  cases hstart : growth.start with
  | error fault => exact ⟨.error fault, rfl, rfl⟩
  | ok first =>
      cases first with
      | failure e => exact ⟨.ok (.failure e), rfl, rfl⟩
      | success s =>
          obtain ⟨word, hword⟩ := (growth.start_clean _ hstart).onward
          have hless : input.remaining s.pos ≤ input.remaining pos := hword.remaining_le
          obtain ⟨w, hmany, halike⟩ := many_grown growth hstep (hword.boundary hpos)
            (Nat.lt_of_le_of_lt hless hfuel) (Nat.lt_succ_of_le hless) (ctx.carried pos s.pos)
          refine ⟨w.map fun o => (((o.map (Prod.mk s.value)).after pos s.used).map fun pair =>
            foldSteps growth.join pair.1 pair.2), ?_, ?_⟩
          · show ((many fuel step s.pos (ctx.carried pos s.pos) >>= _) >>= _) = _
            rw [hmany]
            rcases w with fault | t | e
            · rfl
            · rfl
            · rfl
          · refine Eq.trans ?_ halike
            rcases w with fault | o
            · rfl
            · simp [Except.map]

end Run

/-! ## The two grammars -/

/-- `e step | base`, as the body of a rule `e`. -/
def Parser.leftRecursive (e : Parser S α) (step : Parser S β) (join : α × β → α)
    (base : Parser S α) : Parser S α :=
  ((e.seq step).map join).alt base

/-- `base step*`, with the values of the steps joined from the left. -/
def Parser.iterated (base : Parser S α) (step : Parser S β) (join : α × β → α) : Parser S α :=
  (base.seq step.many).map fun pair => foldSteps join pair.1 pair.2

/-- Both results are the same fault, or outcomes that differ in nothing but their used sets: they
have one value and one end, or they are one error at one position. -/
inductive Result.Agrees {σ : Type} : Result σ (Outcome α) → Result σ (Outcome α) → Prop
  | stopped (fault : Fault) (state state' : σ) :
      Agrees (.stopped fault state) (.stopped fault state')
  | done {o o' : Outcome α} (state state' : σ) :
      o.withUsed ∅ = o'.withUsed ∅ → Agrees (.done o state) (.done o' state')

variable [MemoTable T]

theorem Run.agrees_of_reaches {kind : S.Kind} {key : Key} {pos depth : Nat}
    {v w : Except Fault (Outcome (S.Value kind))} {r : Result (State S T) (Outcome (S.Value kind))}
    {counts : List (String × Nat)} (hr : Reaches kind key pos depth v counts r) (h : Alike w v)
    (state : State S T) :
    r.Agrees (Eval.ofExcept w state) := by
  rcases v with fault | o
  · obtain ⟨after, rfl⟩ := hr
    rcases w with fault' | o'
    · obtain rfl := Except.error.inj h
      exact .stopped fault' after state
    · cases h
  · obtain ⟨after, rfl, -⟩ := hr
    rcases w with fault' | o'
    · cases h
    · refine .done after state ?_
      rw [Outcome.withUsed_withUsed]
      exact (Except.ok.inj h).symm

/-- Whatever runs of the parser consume, it is something. -/
def Grammar.Consumes (G : Grammar S) (T : Type → Type) [MemoTable T] (input : Input S.Token)
    (p : Parser S α) : Prop :=
  ∀ ⦃fuel pos ctx⦄ ⦃state after : State S T⦄ ⦃s⦄, input.Boundary pos →
    G.run input fuel p pos ctx state = .done (.success s) after → pos < s.pos

variable [LawfulMemoTable T] {input : Input S.Token}

/-- Once there is more fuel than tokens, a plain parser comes to one clean verdict at a position. -/
theorem Parser.exists_verdict {p : Parser S α} (hp : p.All Plain) (call : Nat → Caller S T)
    {pos : Nat} (hpos : input.Boundary pos) :
    ∃ verdict : Except Fault (Outcome α), (∀ o, verdict = .ok o → o.Clean input pos) ∧
      ∀ fuel ctx, input.remaining pos < fuel →
        p.eval input fuel (call fuel) pos ctx = Eval.ofExcept verdict := by
  -- One verdict for all amounts of fuel and all contexts: the family is indexed by both.
  let ι := { i : Nat × Context // input.remaining pos < i.1 }
  obtain ⟨verdict, hclean, heval⟩ := Parser.settled_eval hp (fun i : ι => i.1.1)
    (fun i => call i.1.1) (fun i => i.1.2) hpos fun i => i.2
  exact ⟨verdict, hclean, fun fuel ctx hfuel => heval ⟨(fuel, ctx), hfuel⟩⟩

namespace Grammar

variable {G : Grammar S} {rule : S.Rule} {parity : Parity} {key : Key}
variable {base : Parser S (S.Value (S.kind rule))} {step : Parser S β}
variable {join : S.Value (S.kind rule) × β → S.Value (S.kind rule)} {pos : Nat}

/-- The rule `rule step | base`, as a recursion from a position on. -/
theorem exists_recursion
    (hdefine : G.define rule = some (.memo (S.kind rule) parity key
      (Parser.leftRecursive (.ref rule) step join base)))
    (hbase : base.All Parser.Plain) (hstep : step.All Parser.Plain)
    (hconsumes : G.Consumes T input step) (hpos : input.Boundary pos) :
    ∃ r : Run.Recursion input pos (S.kind rule) T β, r.key = key ∧ r.join = join ∧
      (∀ fuel, r.whole fuel = G.call input fuel rule none) ∧
      (∀ fuel, r.base fuel = base.eval input fuel (G.call input fuel)) ∧
      (∀ fuel, r.step fuel = step.eval input fuel (G.call input fuel)) := by
  obtain ⟨start, hstart, hbaseEval⟩ :=
    base.exists_verdict hbase (G.call input (T := T)) hpos
  have hverdict : ∀ middle, ∃ verdict : Except Fault (Outcome β), input.Boundary middle →
      (∀ o, verdict = .ok o → o.Clean input middle) ∧
      ∀ fuel ctx, input.remaining middle < fuel →
        step.eval input fuel (G.call input (T := T) fuel) middle ctx = Eval.ofExcept verdict := by
    intro middle
    by_cases hmiddle : input.Boundary middle
    · obtain ⟨verdict, h⟩ := step.exists_verdict hstep (G.call input (T := T)) hmiddle
      exact ⟨verdict, fun _ => h⟩
    · exact ⟨.error .undefinedRule, fun h => (hmiddle h).elim⟩
  -- The verdicts of `step` depend on the position alone, and so make up one function.
  choose steps hsteps using hverdict
  let r : Run.Recursion input pos (S.kind rule) T β :=
    { start, steps, join, parity, key, tick := id
      start_clean := hstart
      steps_clean := fun middle o hmiddle => (hsteps middle hmiddle).1 o
      steps_move := fun middle t hmiddle ht => by
        -- A success of the verdict is the success of a run, and runs of `step` consume something.
        have hrun : G.run input (input.remaining middle + 2) step middle ∅ (State.new : State S T) =
            .done (.success t) .new := by
          rw [run_succ, (hsteps middle hmiddle).2 _ _ (by omega), ht]
          rfl
        exact Nat.ne_of_gt (hconsumes hmiddle hrun)
      whole := fun fuel => G.call input fuel rule none
      base := fun fuel => base.eval input fuel (G.call input fuel)
      step := fun fuel => step.eval input fuel (G.call input fuel)
      whole_succ := fun fuel => by
        rw [call_rule hdefine, run_succ]
        rfl
      base_eq := hbaseEval
      step_eq := fun fuel ctx middle hmiddle => (hsteps middle hmiddle).2 fuel ctx }
  exact ⟨r, rfl, rfl, fun _ => rfl, fun _ => rfl, fun _ => rfl⟩

/-- A rule `rule step | base` does what `base step*` does. -/
theorem run_leftRecursive_agrees
    (hdefine : G.define rule = some (.memo (S.kind rule) parity key
      (Parser.leftRecursive (.ref rule) step join base)))
    (hbase : base.All Parser.Plain) (hstep : step.All Parser.Plain)
    (hconsumes : G.Consumes T input step) (hlength : input.tokens.length < 2 ^ 32 - 2)
    (hpos : input.Boundary pos) {state : State S T}
    (hstate : state.lookup (S.kind rule) key pos = none) :
    ∃ enough, ∀ fuel, enough ≤ fuel →
      (G.run input fuel (.ref rule) pos ∅ state).Agrees
        (G.run input fuel (Parser.iterated base step join) pos ∅ state) := by
  obtain ⟨r, rfl, rfl, hwhole, hbaseRun, hstepRun⟩ :=
    exists_recursion hdefine hbase hstep hconsumes hpos
  have hlimit := Run.remaining_lt_depthLimit hlength pos
  refine ⟨2 * input.remaining pos + 4, fun fuel hfuel => ?_⟩
  -- The outermost level is the one that is run under the empty context.
  obtain ⟨less, rfl⟩ : ∃ less, fuel = less + 1 := ⟨fuel - 1, by omega⟩
  have hreaches := r.whole_reaches hpos hlimit (Nat.zero_add _)
    (show input.remaining pos + (input.remaining pos + 1) + 1 < less by omega) hstate
  obtain ⟨w, hiterated, halike⟩ := Run.iterate_level r.toGrowth hpos
    (r.base_eq less ∅ (by omega)) (fun middle ctx => r.step_eq less ctx middle) (by omega)
  have hrule : G.run input (less + 1) (.ref rule) pos ∅ state =
      r.whole less pos (.tracking r.key 0) state := by
    rw [hwhole]
    rfl
  have hiterate : G.run input (less + 1) (Parser.iterated base step r.join) pos ∅ state =
      Eval.ofExcept w state := by
    rw [← hiterated, hbaseRun, hstepRun]
    rfl
  rw [hrule, hiterate]
  exact Run.agrees_of_reaches hreaches halike state

omit [LawfulMemoTable T] in
/-- A token has a positive width. -/
theorem consumes_token (test : S.Token → Bool) (name : String) :
    G.Consumes T input (Parser.token test name) := by
  intro fuel pos ctx state after s hpos hrun
  cases fuel with
  | zero => cases hrun
  | succ fuel =>
      obtain ⟨hfound, -⟩ := Eval.pure_eq_done.1 hrun
      replace hfound : Outcome.success s =
          Run.found name pos ((input.next? pos).filter fun pair => test pair.1) := hfound
      cases hnext : (input.next? pos).filter fun pair => test pair.1 with
      | none =>
          rw [hnext] at hfound
          cases hfound
      | some pair =>
          rw [hnext] at hfound
          obtain rfl := Outcome.success.inj hfound
          have hreads := Input.reads_of_next? (Option.filter_eq_some_iff.1 hnext).1
          have hwidth := input.width_pos pair.1
          have hstop : pair.2 = pos + (input.width pair.1 + 0) := hreads.stop_eq
          show pos < pair.2
          omega

omit [LawfulMemoTable T] in
/-- A parser consumes something where the values of one that does are changed. -/
theorem Consumes.map {p : Parser S α} (hp : G.Consumes T input p) (f : α → β) :
    G.Consumes T input (p.map f) := by
  intro fuel pos ctx state after s hpos hrun
  cases fuel with
  | zero => cases hrun
  | succ fuel =>
      have hrun : Run.tryMap (fun a => .ok (f a)) (G.run input (fuel + 1) p) pos ctx state =
          .done (.success s) after := hrun
      rcases Run.tryMap_eq_done.1 hrun with ⟨e, -, hs⟩ | ⟨first, value, hfirst, -, hs⟩
      · cases hs
      · obtain rfl := Outcome.success.inj hs
        exact hp hpos hfirst

/-- Decimal numbers, digit by digit from the left. -/
theorem run_leftRecursive_agrees_digits :
    let digit : Parser Samples.IntRule Int :=
      (Parser.token (S := Samples.IntRule) Char.isDigit "digit").map fun c => c.toNat - '0'.toNat
    let join : Int × Int → Int := fun pair => 10 * pair.1 + pair.2
    let rule : Parser Samples.IntRule Int := .ref (S := Samples.IntRule) ()
    let G : Grammar Samples.IntRule :=
      { define := fun _ => some (.memo (S := Samples.IntRule) () .odd (.id 0)
          (rule.leftRecursive digit join digit)) }
    ∃ enough, ∀ fuel, enough ≤ fuel →
      (G.run (T := OrderedTable) (Input.ofText "721") fuel rule 0 ∅ .new).Agrees
        (G.run (Input.ofText "721") fuel (digit.iterated digit join) 0 ∅ .new) := by
  intro digit join rule G
  have hdigit : digit.All Parser.Plain := ⟨trivial, trivial⟩
  have hconsumes : G.Consumes OrderedTable (Input.ofText "721") digit :=
    (consumes_token (S := Samples.IntRule) Char.isDigit "digit").map _
  exact run_leftRecursive_agrees rfl hdigit hdigit hconsumes (by decide) Input.boundary_zero
    (State.noEntries_new _ _ _)

end Grammar
end LeftRec
