import LeftRec.Memo.Ordered
import LeftRec.Proofs.Iteration
import LeftRec.Proofs.Levels
import LeftRec.Proofs.Yields
import LeftRec.Samples.Counting

/-!
# Curtailment — the bound is met exactly

The body of a left-recursive rule is run once for every token that remains and two times more, also
where the result has stopped growing long before.  Of the rules that count how often their bodies
are run, one reads a run of one letter, and the other one is nothing but itself, so that all it can
come to is its curtailment.
-/

namespace LeftRec

variable {S : Signature} {T : Type → Type} {α β γ : Type}

/-! ## Counters -/

/-- How often something was run under the label. -/
def State.runs (label : String) (state : State S T) : Nat :=
  (state.counts.lookup label).getD 0

theorem State.lookup_tally (label : String) (counts : List (String × Nat)) :
    (tally label counts).lookup label = some ((counts.lookup label).getD 0 + 1) := by
  induction counts with
  | nil => simp [tally]
  | cons entry rest ih =>
      obtain ⟨other, n⟩ := entry
      rw [tally]
      by_cases h : other = label
      · simp [h]
      · have hother : (label == other) = false := beq_false_of_ne (Ne.symm h)
        simp only [if_neg h, List.lookup_cons, hother]
        exact ih

/-- Counters that were raised so often are higher by that. -/
theorem State.runs_of_iterate {label : String} {state after : State S T} {n : Nat}
    (h : after.counts = (tally label)^[n] state.counts) :
    after.runs label = state.runs label + n := by
  rw [runs, h, runs]
  clear h
  induction n with
  | zero => rfl
  | succ n ih =>
      rw [Function.iterate_succ_apply', lookup_tally, Option.getD_some, ih, Nat.add_assoc]

/-! ## Rules that are nothing but a step or a base -/

theorem Run.tryMap_zipWith (f : α → β → γ) (g : γ → α) (p : Run S T α) (q : Run S T β) :
    tryMap (fun c => .ok (g c)) (zipWith f p q) = onward (fun pair => g (f pair.1 pair.2)) p q := by
  funext pos ctx state
  simp only [onward, tryMap, zipWith, Eval.bind_apply]
  cases p pos ctx state with
  | exhausted => rfl
  | stopped fault middle => rfl
  | done o middle =>
      cases o with
      | failure e => rfl
      | success s =>
          simp only [Eval.bind_apply]
          cases q s.pos (ctx.carried pos s.pos) middle with
          | exhausted => rfl
          | stopped fault after => rfl
          | done second after => cases second <;> rfl

namespace Samples

/-! ## A run of letters -/

/-- How many letters x stand at a position before anything else does. -/
def letters (input : Input Char) (pos : Nat) : Nat :=
  ((input.rest pos).takeWhile (· == 'x')).length

/-- What a run of letters comes to: their number and where they end, or a failure if there is
none. -/
def letterRun (input : Input Char) (used : Used) (pos : Nat) : Outcome Nat :=
  let n := letters input pos
  if n = 0 then .failure { reason := .expecting "x", pos, used }
  else .success { value := n, pos := pos + n * input.width 'x', used }

/-- What looking for the letter x comes to, with a value in its place. -/
def letter (input : Input Char) (value : α) (pos : Nat) : Outcome α :=
  if input.startsWith pos ['x'] then .yield value (pos + input.width 'x')
  else .fail (.expecting "x") pos

section Letters

variable {input : Input Char} {pos : Nat}

theorem reads_letter (h : input.startsWith pos ['x'] = true) :
    input.Reads pos ['x'] (pos + input.width 'x') := by
  simpa [Input.span] using Input.reads_of_startsWith h

theorem letters_of_letter (h : input.startsWith pos ['x'] = true) :
    letters input pos = letters input (pos + input.width 'x') + 1 := by
  rw [letters, (reads_letter h).rest_eq]
  rfl

theorem letters_of_other (h : input.startsWith pos ['x'] = false) : letters input pos = 0 := by
  cases hrest : input.rest pos with
  | nil => rw [letters, hrest]; rfl
  | cons c rest =>
      have hc : c ≠ 'x' := by
        rintro rfl
        have hreads : input.Reads pos ['x'] (pos + Input.span input.width ['x']) :=
          Input.reads_of_rest hrest
        rw [hreads.startsWith (List.cons_ne_nil _ _)] at h
        cases h
      simp [letters, hrest, hc]

theorem clean_letter (value : α) : (letter input value pos).Clean input pos := by
  unfold letter
  split
  next h => exact ⟨rfl, _, reads_letter h⟩
  next => exact .here rfl rfl

theorem withUsed_letterRun (used used' : Used) :
    (letterRun input used pos).withUsed used' = letterRun input used' pos := by
  simp only [letterRun]
  split <;> rfl

theorem letters_le_remaining (input : Input Char) (pos : Nat) :
    letters input pos ≤ input.remaining pos :=
  (List.takeWhile_prefix _).length_le

/-- Letter after letter is read from a position on, and each one adds one to what is yielded. -/
def growing (input : Input Char) (pos : Nat) : Growth input pos Nat String where
  start := .ok (letter input 1 pos)
  steps middle := .ok (letter input "x" middle)
  join pair := pair.1 + 1
  start_clean o ho := by
    obtain rfl := Except.ok.inj ho
    exact clean_letter 1
  steps_clean middle o _ ho := by
    obtain rfl := Except.ok.inj ho
    exact clean_letter "x"
  steps_move middle t _ ht := by
    have hpos := input.width_pos 'x'
    have ht := Except.ok.inj ht
    unfold letter at ht
    split at ht
    · obtain rfl := Outcome.success.inj ht
      show middle + input.width 'x' ≠ middle
      omega
    · cases ht

/-- Enough steps take all letters that are left. -/
theorem grown_growing {n value stop : Nat} (h : letters input stop ≤ n) :
    (growing input pos).grown n ⟨value, stop, ∅⟩ =
      .ok (.yield (value + letters input stop)
        (stop + letters input stop * input.width 'x')) := by
  induction n generalizing value stop with
  | zero =>
      have hnone : letters input stop = 0 := Nat.le_zero.1 h
      simp [Growth.grown, hnone, Outcome.yield]
  | succ n ih =>
      rw [Growth.grown]
      cases hx : input.startsWith stop ['x'] with
      | false =>
          have hstep : (growing input pos).steps stop = .ok (.fail (.expecting "x") stop) := by
            simp [growing, letter, hx]
          simp only [hstep, letters_of_other hx, Nat.zero_mul]
          rfl
      | true =>
          have hletters := letters_of_letter hx
          have hstep : (growing input pos).steps stop =
              .ok (.yield "x" (stop + input.width 'x')) := by
            simp [growing, letter, hx]
          have hless : letters input (stop + input.width 'x') ≤ n := by omega
          simp only [hstep]
          refine (@ih (value + 1) _ hless).trans ?_
          rw [hletters, Nat.add_mul, Nat.one_mul]
          congr 2
          · omega
          · omega

/-- What the outermost level finds: the number of letters, or none. -/
theorem level_growing :
    (growing input pos).level (input.remaining pos + 1) = .ok (letterRun input ∅ pos) := by
  have hle := letters_le_remaining input pos
  cases hx : input.startsWith pos ['x'] with
  | false => simp [Growth.level, growing, letter, letterRun, hx, letters_of_other hx, Outcome.fail]
  | true =>
      have hletters := letters_of_letter hx
      have hstart : (growing input pos).start =
          .ok (.success ⟨1, pos + input.width 'x', ∅⟩) := by
        simp [growing, letter, hx, Outcome.yield]
      simp only [Growth.level, hstart, letterRun]
      rw [grown_growing (by omega), if_neg (by omega), hletters, Nat.add_mul, Nat.one_mul]
      congr 2
      · omega
      · omega

end Letters

section Rules

variable [MemoTable T] {input : Input Char} {parity : Parity} {key : Key} {pos : Nat}

/-- The letter is looked for in the same way with any fuel and under any context. -/
theorem eval_text (input : Input Char) (fuel : Nat) (call : Caller NatRule T) (ctx : Context) :
    ((Parser.text "x" : Parser NatRule String).eval input fuel call) pos ctx =
      Eval.ofExcept (.ok (letter input "x" pos)) := by
  let found : Outcome (List Char) := Run.found "x" pos
    (if input.startsWith pos ['x'] then some (['x'], pos + input.width 'x') else none)
  have hword : (Parser.text "x" : Parser NatRule String).eval input fuel call pos ctx =
      Run.tryMap (fun word => .ok (String.ofList word)) (fun _ _ => pure found) pos ctx := rfl
  rw [hword]
  simp only [found, letter]
  split <;> rfl

theorem eval_yielding (input : Input Char) (fuel : Nat) (call : Caller NatRule T)
    (ctx : Context) :
    (((Parser.text "x").yielding 1 : Parser NatRule Nat).eval input fuel call) pos ctx =
      Eval.ofExcept (.ok (letter input 1 pos)) := by
  show Run.tryMap (fun _ => .ok 1)
    ((Parser.text "x" : Parser NatRule String).eval input fuel call) pos ctx = _
  rw [Run.tryMap, eval_text]
  unfold letter
  split <;> rfl

/-- The rule as a recursion, which counts a run wherever its body is entered. -/
theorem exists_letter_recursion {G : Grammar NatRule} (input : Input Char) (pos : Nat)
    (hdefine : G.define () = some (.memo (S := NatRule) () parity key selfRecursionBody)) :
    ∃ r : Run.Recursion (S := NatRule) input pos () T String, r.toGrowth = growing input pos ∧
      r.key = key ∧ r.tick = State.tally runsLabel ∧
      ∀ fuel, r.whole fuel = G.call input fuel () none := by
  let whole (fuel : Nat) : Run NatRule T Nat := G.call input fuel () none
  let step (fuel : Nat) : Run NatRule T String :=
    (Parser.text "x" : Parser NatRule String).eval input fuel (G.call input fuel)
  let base (fuel : Nat) : Run NatRule T Nat :=
    ((Parser.text "x").yielding 1 : Parser NatRule Nat).eval input fuel (G.call input fuel)
  have hwhole (fuel : Nat) : whole (fuel + 1) =
      Run.memo (S := NatRule) input () parity key (Run.ticked (State.tally runsLabel)
        (Run.alt (Run.onward (growing input pos).join (whole fuel) (step fuel)) (base fuel))) := by
    have hbody : whole (fuel + 1) =
        Run.memo (S := NatRule) input () parity key (Run.count runsLabel
          (Run.alt (Run.tryMap (fun n => .ok (n + 1))
            (Run.zipWith (fun n _ => n) (whole fuel) (step fuel))) (base fuel))) :=
      Grammar.call_rule hdefine
    have honward := Run.tryMap_zipWith (fun n _ => n) (· + 1) (whole fuel) (step fuel)
    exact hbody.trans (congrArg (fun p => Run.memo (S := NatRule) input () parity key
      (Run.count runsLabel (Run.alt p (base fuel)))) honward)
  let r : Run.Recursion (S := NatRule) input pos () T String :=
    { growing input pos with
      parity, key, whole, step, base
      tick := State.tally runsLabel
      whole_succ := hwhole
      base_eq := fun fuel ctx _ => eval_yielding input fuel _ ctx
      step_eq := fun fuel ctx middle _ _ => eval_text input fuel _ ctx }
  exact ⟨r, rfl, rfl, rfl, fun _ => rfl⟩

/-- The rule finds the number of letters, and counts a run for every body. -/
theorem run_selfRecursion [LawfulMemoTable T] {G : Grammar NatRule}
    (hdefine : G.define () = some (.memo (S := NatRule) () parity key selfRecursionBody))
    (hlength : input.tokens.length < 2 ^ 32 - 2) (hpos : input.Boundary pos) {fuel : Nat}
    (hfuel : 2 * input.remaining pos + 4 ≤ fuel) {state : State NatRule T}
    (hstate : state.lookup () key pos = none) :
    ∃ after,
      G.run input fuel (.ref (S := NatRule) ()) pos ∅ state =
        .done (letterRun input (.single key) pos) after ∧
      after.runs runsLabel = state.runs runsLabel + (input.remaining pos + 2) := by
  obtain ⟨r, hgrowth, rfl, htick, hwhole⟩ := exists_letter_recursion (T := T) input pos hdefine
  obtain ⟨less, rfl⟩ : ∃ less, fuel = less + 1 := ⟨fuel - 1, by omega⟩
  have hlimit : input.remaining pos + 1 < Context.depthLimit :=
    Run.remaining_lt_depthLimit (S := NatRule) hlength pos
  have hreaches := r.whole_reaches hpos hlimit (Nat.zero_add _)
    (show input.remaining pos + (input.remaining pos + 1) + 1 < less by omega) hstate
  have hlevel : r.level (input.remaining pos + 1) = .ok (letterRun input ∅ pos) := by
    rw [hgrowth]
    exact level_growing
  rw [htick, hwhole] at hreaches
  obtain ⟨after, hrun, hcounts⟩ := hreaches.of_ok hlevel
  refine ⟨after, ?_, State.runs_of_iterate hcounts⟩
  rw [← withUsed_letterRun ∅]
  exact hrun

end Rules

end Samples

/-! ## Nothing but the rule itself -/

namespace Grammar

variable [MemoTable T] [LawfulMemoTable T] {G : Grammar S} {input : Input S.Token} {rule : S.Rule}
variable {parity : Parity} {key : Key} {pos : Nat}

/-- Each level of a rule that is nothing but itself fails as the curtailed one does, and counts its
own run. -/
theorem run_itself {label : String}
    (hdefine : G.define rule = some (.memo (S.kind rule) parity key (.count label (.ref rule))))
    (hlength : input.tokens.length < 2 ^ 32 - 2) {n fuel : Nat} {ctx : Context} {state : State S T}
    (hlevels : ctx.depth key + n = input.remaining pos + 2) (hfuel : n < fuel)
    (hstate : state.lookup (S.kind rule) key pos = none) :
    ∃ after,
      G.run input (fuel + 1) (.ref rule) pos ctx state =
        .done (.failure ⟨.curtailment, pos, .single key⟩) after ∧
      (∀ o under, after.lookup (S.kind rule) key pos = some (o, under) → o.isSuccess = false) ∧
      after.counts = (State.tally label)^[n] state.counts := by
  have hbound := Run.depthBound_of_length hlength pos
  obtain ⟨less, rfl⟩ : ∃ less, fuel = less + 1 := ⟨fuel - 1, by omega⟩
  -- The induction is on the levels that are left, the last of which is curtailed.
  induction n generalizing less ctx state with
  | zero =>
      have hcurtailed := run_curtailed hdefine less hstate
        (show Run.depthBound (input.remaining pos) < ctx.depth key by omega)
      refine ⟨_, hcurtailed, fun o under hlookup => ?_, rfl⟩
      rw [State.lookup_note, hstate] at hlookup
      cases hlookup
  | succ n ih =>
      obtain ⟨fewer, rfl⟩ : ∃ fewer, less = fewer + 1 := ⟨less - 1, by omega⟩
      have hdepth : ctx.depth key ≤ Run.depthBound (input.remaining pos) := by omega
      have hmissed : Run.Missed state (S.kind rule) key pos ctx := by
        intro o under hlookup
        cases hstate.symm.trans hlookup
      have hdeeper : (ctx.withDepth key (ctx.depth key + 1)).depth key + n =
          input.remaining pos + 2 := by
        rw [Context.depth_withDepth, if_pos rfl]
        omega
      have hcounted : (state.count label).lookup (S.kind rule) key pos = none := hstate
      obtain ⟨middle, hrun, hfailed, hcounts⟩ := ih hdeeper hcounted fewer (by omega)
      have hnone : Run.preferred parity (input.remaining pos) ctx
          (.failure ⟨.curtailment, pos, .single key⟩) (middle.lookup (S.kind rule) key pos) =
            none := by
        cases hlookup : middle.lookup (S.kind rule) key pos with
        | none => rfl
        | some found =>
            obtain ⟨o, under⟩ := found
            have ho := hfailed o under hlookup
            cases o with
            | success s => cases ho
            | failure e => rfl
      have hbody : G.run input (fewer + 2) (.count label (.ref rule)) pos
          (ctx.withDepth key (ctx.depth key + 1)) state =
            .done (.failure ⟨.curtailment, pos, .single key⟩) middle := hrun
      have hmemo := Run.memo_of_body parity hmissed hdepth
        (Run.depth_lt_depthLimit hlength hdepth) hbody
      rw [Run.keep_fst_of_none hnone] at hmemo
      refine ⟨_, (congrFun₃ (run_memoized hdefine (fewer + 1)) pos ctx state).trans hmemo,
        fun o under hlookup => ?_, ?_⟩
      · rw [Run.lookup_keep_self, Run.keep_fst_of_none hnone] at hlookup
        obtain ⟨rfl, -⟩ := Prod.mk.inj (Option.some.inj hlookup)
        rfl
      · rw [Run.keep_snd_counts, hcounts, Function.iterate_succ_apply]
        rfl

/-! ## The bound -/

variable (G input) in
/-- With enough fuel, a rule that is invoked at the position under the empty context comes to a
result that passes the check, and runs its body there once for every remaining token and two times
more. -/
def RunsToBound (rule : S.Rule) (key : Key) (pos : Nat) (state : State S T)
    (check : Result (State S T) (Outcome (S.Value (S.kind rule))) → Prop) : Prop :=
  ∃ enough, ∀ fuel, enough ≤ fuel →
    check (G.run input fuel (.ref rule) pos ∅ state) ∧
    (G.bodies input key pos ⟨.ref rule, fuel, pos, ∅, state⟩).length = input.remaining pos + 2

omit [LawfulMemoTable T] in
/-- A body that opens with its rule is run to the bound. -/
theorem runsToBound_of_opensWith {body : Parser S (S.Value (S.kind rule))}
    (hdefine : G.define rule = some (.memo (S.kind rule) parity key body))
    (hbody : body.OpensWith rule) (hlength : input.tokens.length < 2 ^ 32 - 2) {state : State S T}
    (hstate : state.lookup (S.kind rule) key pos = none)
    {check : Result (State S T) (Outcome (S.Value (S.kind rule))) → Prop}
    (hcheck : ∃ enough, ∀ fuel, enough ≤ fuel →
      check (G.run input fuel (.ref rule) pos ∅ state)) :
    G.RunsToBound input rule key pos state check := by
  obtain ⟨enough, hcheck⟩ := hcheck
  refine ⟨max enough (input.remaining pos + 3), fun fuel hfuel => ⟨hcheck fuel (by omega), ?_⟩⟩
  exact length_bodies hdefine hbody hlength (Nat.zero_add _) (by omega) hstate

theorem runsToBound_leftRecursive {base : Parser S (S.Value (S.kind rule))} {step : Parser S β}
    {join : S.Value (S.kind rule) × β → S.Value (S.kind rule)} {state : State S T}
    (hdefine : G.define rule = some (.memo (S.kind rule) parity key
      (Parser.leftRecursive (.ref rule) step join base)))
    (hbase : base.All Parser.Plain) (hstep : step.All Parser.Plain)
    (hconsumes : G.Consumes T input step) (hlength : input.tokens.length < 2 ^ 32 - 2)
    (hpos : input.Boundary pos) (hstate : state.lookup (S.kind rule) key pos = none) :
    G.RunsToBound input rule key pos state (· ≠ .exhausted) := by
  refine runsToBound_of_opensWith hdefine ⟨⟨rfl, hstep⟩, hbase⟩ hlength hstate
    ⟨2 * input.remaining pos + 4, fun fuel hfuel => ?_⟩
  obtain ⟨less, rfl⟩ : ∃ less, fuel = less + 1 := ⟨fuel - 1, by omega⟩
  obtain ⟨r, rfl, -, hwhole, -⟩ := exists_recursion hdefine hbase hstep hconsumes hpos
  have hlimit := Run.remaining_lt_depthLimit hlength pos
  have hreaches := r.whole_reaches hpos hlimit (Nat.zero_add _)
    (show input.remaining pos + (input.remaining pos + 1) + 1 < less by omega) hstate
  rw [hwhole] at hreaches
  exact hreaches.ne_exhausted

end Grammar

namespace Samples

variable [MemoTable T] [LawfulMemoTable T] {input : Input Char} {parity : Parity} {key : Key}
variable {pos : Nat}

theorem runsToBound_selfRecursion {G : Grammar NatRule} {state : State NatRule T}
    (hdefine : G.define () = some (.memo (S := NatRule) () parity key selfRecursionBody))
    (hlength : input.tokens.length < 2 ^ 32 - 2) (hpos : input.Boundary pos)
    (hstate : state.lookup () key pos = none) :
    G.RunsToBound input () key pos state fun r =>
      ∃ after, r = .done (letterRun input (.single key) pos) after ∧
        after.runs runsLabel = state.runs runsLabel + (input.remaining pos + 2) := by
  have hbody : selfRecursionBody.OpensWith (S := NatRule) () :=
    ⟨⟨rfl, trivial, trivial⟩, trivial, trivial, trivial⟩
  exact Grammar.runsToBound_of_opensWith hdefine hbody hlength hstate
    ⟨_, fun _ hfuel => run_selfRecursion hdefine hlength hpos hfuel hstate⟩

theorem runsToBound_onlyRecursion {G : Grammar UnitRule} {state : State UnitRule T}
    (hdefine : G.define () = some (onlyRecursionRule parity key))
    (hlength : input.tokens.length < 2 ^ 32 - 2) (hstate : state.lookup () key pos = none) :
    G.RunsToBound input () key pos state fun r =>
      ∃ after, r = .done (.failure ⟨.curtailment, pos, .single key⟩) after ∧
        after.runs runsLabel = state.runs runsLabel + (input.remaining pos + 2) := by
  have hbody : Parser.OpensWith (S := UnitRule) ()
      (.count runsLabel (.ref (S := UnitRule) ())) := rfl
  refine Grammar.runsToBound_of_opensWith hdefine hbody hlength hstate
    ⟨input.remaining pos + 4, fun fuel hfuel => ?_⟩
  obtain ⟨less, rfl⟩ : ∃ less, fuel = less + 1 := ⟨fuel - 1, by omega⟩
  have hzero : (∅ : Context).depth key + (input.remaining pos + 2) = input.remaining pos + 2 :=
    Nat.zero_add _
  obtain ⟨after, hrun, -, hcounts⟩ :=
    Grammar.run_itself hdefine hlength hzero (show input.remaining pos + 2 < less by omega) hstate
  exact ⟨after, hrun, State.runs_of_iterate hcounts⟩

/-- The body of a left-recursive rule is run exactly as often as the bound allows, whatever the
parity: once for every token that remains and two times more.  The rule for a run of letters finds
how many there are, and the rule that is nothing but itself is curtailed. -/
theorem body_runs_to_bound :
    (∀ {S : Signature} {β : Type} {G : Grammar S} {input : Input S.Token} {rule : S.Rule}
      {parity : Parity} {key : Key} {base : Parser S (S.Value (S.kind rule))} {step : Parser S β}
      {join : S.Value (S.kind rule) × β → S.Value (S.kind rule)} {pos : Nat} {state : State S T},
      G.define rule = some (.memo (S.kind rule) parity key
        (Parser.leftRecursive (.ref rule) step join base)) →
      base.All Parser.Plain → step.All Parser.Plain → G.Consumes T input step →
      input.tokens.length < 2 ^ 32 - 2 → input.Boundary pos →
      state.lookup (S.kind rule) key pos = none →
      G.RunsToBound input rule key pos state (· ≠ .exhausted)) ∧
    (∀ {G : Grammar NatRule} {input : Input Char} {parity : Parity} {key : Key} {pos : Nat}
      {state : State NatRule T},
      G.define () = some (.memo (S := NatRule) () parity key selfRecursionBody) →
      input.tokens.length < 2 ^ 32 - 2 → input.Boundary pos → state.lookup () key pos = none →
      G.RunsToBound input () key pos state fun r =>
        ∃ after, r = .done (letterRun input (.single key) pos) after ∧
          after.runs runsLabel = state.runs runsLabel + (input.remaining pos + 2)) ∧
    (∀ {G : Grammar UnitRule} {input : Input Char} {parity : Parity} {key : Key} {pos : Nat}
      {state : State UnitRule T},
      G.define () = some (onlyRecursionRule parity key) →
      input.tokens.length < 2 ^ 32 - 2 → state.lookup () key pos = none →
      G.RunsToBound input () key pos state fun r =>
        ∃ after, r = .done (.failure ⟨.curtailment, pos, .single key⟩) after ∧
          after.runs runsLabel = state.runs runsLabel + (input.remaining pos + 2)) := by
  exact ⟨Grammar.runsToBound_leftRecursive, runsToBound_selfRecursion, runsToBound_onlyRecursion⟩

/-- A number of three digits, two letters before two wider characters, and two of these alone. -/
theorem body_runs_to_bound_wide :
    let digit : Parser IntRule Int :=
      (Parser.token (S := IntRule) Char.isDigit "digit").map fun c => c.toNat - '0'.toNat
    let join : Int × Int → Int := fun pair => 10 * pair.1 + pair.2
    let rule : Parser IntRule Int := .ref (S := IntRule) ()
    let digits : Grammar IntRule :=
      { define := fun _ => some (.memo (S := IntRule) () .odd (.id 0)
          (rule.leftRecursive digit join digit)) }
    let counted : Grammar NatRule := { define := fun _ => some (selfRecursionRule (.id 0)) }
    let only : Grammar UnitRule := { define := fun _ => some (onlyRecursionRule .odd (.id 0)) }
    digits.RunsToBound (T := OrderedTable) (Input.ofText "721") () (.id 0) 0 .new
        (· ≠ .exhausted) ∧
      (counted.RunsToBound (T := OrderedTable) (Input.ofText "yxxé€") () (.id 0) 1 .new fun r =>
        ∃ after, r = .done (.success ⟨(2 : Nat), 3, .single (.id 0)⟩) after ∧
          after.runs runsLabel = 6) ∧
      only.RunsToBound (T := OrderedTable) (Input.ofText "éé") () (.id 0) 0 .new fun r =>
        ∃ after, r = .done (.failure ⟨.curtailment, 0, .single (.id 0)⟩) after ∧
          after.runs runsLabel = 4 := by
  intro digit join rule digits counted only
  obtain ⟨hrule, hletters, honly⟩ := body_runs_to_bound (T := OrderedTable)
  refine ⟨?_, ?_, ?_⟩
  · have hdigit : digit.All Parser.Plain := ⟨trivial, trivial⟩
    have hconsumes : digits.Consumes OrderedTable (Input.ofText "721") digit :=
      (Grammar.consumes_token (S := IntRule) Char.isDigit "digit").map _
    exact hrule rfl hdigit hdigit hconsumes (by decide) Input.boundary_zero
      (State.noEntries_new _ _ _)
  · have hpos : (Input.ofText "yxxé€").Boundary 1 := ⟨['y'], ['x', 'x', 'é', '€'], rfl, rfl⟩
    exact hletters rfl (by decide) hpos (State.noEntries_new _ _ _)
  · exact honly rfl (by decide) (State.noEntries_new _ _ _)

end Samples

end LeftRec
