import Mathlib.Algebra.Group.Nat.Defs
import LeftRec.Proofs.ContextMap
import LeftRec.Proofs.Growth

/-!
# Recursion — the levels of a rule that enters itself

A rule that is `rule step | base` enters itself once for every remaining token and once more, and is
curtailed then.  The innermost level finds `base`.  Every level around it adds one step to what the
level inside found and left in the table.  Once there is no step left, `base` is found again, and
gives way to what is in the table.
-/

namespace LeftRec

variable {S : Signature} {T : Type → Type} {α β : Type}

/-! ## Outcomes and used sets -/

@[simp]
theorem Outcome.used_withUsed (o : Outcome α) (used : Used) : (o.withUsed used).used = used := by
  cases o with
  | success s => rfl
  | failure e => rfl

@[simp]
theorem Used.union_empty (used : Used) : used.union ∅ = used := rfl

@[simp]
theorem Used.sequenced_empty_right (start stop : Nat) (used : Used) :
    Used.sequenced start stop used ∅ = used := by
  unfold Used.sequenced
  split
  · rfl
  · rfl

/-- Behind a first part, a clean outcome depends on what that part depended on. -/
theorem Outcome.Clean.after_eq {τ : Type} {input : Input τ} {pos : Nat} {o : Outcome α}
    (h : o.Clean input pos) (start : Nat) (used : Used) : o.after start used = o.withUsed used := by
  rw [Outcome.after, h.used_eq, Used.sequenced_empty_right]

/-- The outcome of a choice whose first branch failed so that the second one was taken. -/
def Outcome.behind (first : Failure) : Outcome α → Outcome α
  | .success s => .success { s with used := first.used.union s.used }
  | .failure second => .failure (first.merge second)

namespace Run

variable {pos : Nat} {ctx : Context} {state middle : State S T}

section Alternatives

variable {p q : Run S T α}

theorem alt_of_stopped {fault : Fault} (h : p pos ctx state = .stopped fault middle) :
    alt p q pos ctx state = .stopped fault middle := by
  simp only [alt, Eval.bind_apply, h]

theorem alt_of_success {s : Success α} (h : p pos ctx state = .done (.success s) middle) :
    alt p q pos ctx state = .done (.success s) middle := by
  simp only [alt, Eval.bind_apply, h, Eval.pure_apply]

/-- Nothing steps back over a fatal failure. -/
theorem alt_of_fatal {e : Failure} (h : p pos ctx state = .done (.failure e) middle)
    (he : e.isFatal = true) : alt p q pos ctx state = .done (.failure e) middle := by
  simp only [alt, Eval.bind_apply, h, Eval.pure_apply, he, if_true]

theorem alt_of_failure {e : Failure} (h : p pos ctx state = .done (.failure e) middle)
    (he : e.isFatal = false) {start : Except Fault (Outcome α)}
    (hq : q pos ctx = Eval.ofExcept start) :
    alt p q pos ctx state = Eval.ofExcept (start.map (Outcome.behind e)) middle := by
  simp only [alt, Eval.bind_apply, h, he, Bool.false_eq_true, if_false, hq]
  rcases start with fault | s | second
  · rfl
  · rfl
  · rfl

end Alternatives

/-- Run a rule from within and then a step, and join their values. -/
def onward (join : α × β → α) (inner : Run S T α) (step : Run S T β) : Run S T α :=
  tryMap (fun pair => .ok (join pair)) (zipWith Prod.mk inner step)

section Onward

variable (join : α × β → α) {inner : Run S T α} (step : Run S T β)

theorem onward_of_stopped {fault : Fault} (h : inner pos ctx state = .stopped fault middle) :
    onward join inner step pos ctx state = .stopped fault middle := by
  simp only [onward, tryMap, zipWith, Eval.bind_apply, h]

theorem onward_of_failure {e : Failure} (h : inner pos ctx state = .done (.failure e) middle) :
    onward join inner step pos ctx state = .done (.failure e) middle := by
  simp only [onward, tryMap, zipWith, Eval.bind_apply, h, Eval.pure_apply]

variable {step} in
theorem onward_of_success {s : Success α} (h : inner pos ctx state = .done (.success s) middle)
    {verdict : Except Fault (Outcome β)}
    (hstep : step s.pos (ctx.carried pos s.pos) = Eval.ofExcept verdict) :
    onward join inner step pos ctx state =
      Eval.ofExcept (verdict.map fun second =>
        (second.map fun b => join (s.value, b)).after pos s.used) middle := by
  simp only [onward, tryMap, zipWith, Eval.bind_apply, h, hstep]
  rcases verdict with fault | t | e
  · rfl
  · rfl
  · rfl

end Onward

/-! ### What a level leaves -/

/-- A failure does not give way to what was found one level further inside. -/
theorem preferred_failure (parity : Parity) (remaining depth : Nat) (key : Key) (e : Failure)
    (stored : Outcome α) :
    preferred parity remaining (.tracking key depth) (.failure e)
      (some (stored, .tracking key (depth + 1))) = none := by
  cases stored with
  | success s => simp [preferred]
  | failure e => rfl

section Levels

variable [MemoTable T] {input : Input S.Token} {kind : S.Kind}
variable {parity : Parity} {key : Key} {depth : Nat}

/-- The result shows a verdict that used the rule itself.  An outcome is left in the table as one
that was found at the depth, and the counters are left as given. -/
def Reaches (kind : S.Kind) (key : Key) (pos depth : Nat)
    (verdict : Except Fault (Outcome (S.Value kind))) (counts : List (String × Nat))
    (r : Result (State S T) (Outcome (S.Value kind))) : Prop :=
  match verdict with
  | .error fault => ∃ after, r = .stopped fault after
  | .ok o =>
      ∃ after, r = .done (o.withUsed (.single key)) after ∧
        after.lookup kind key pos = some (o.withUsed (.single key), .tracking key depth) ∧
        after.counts = counts

section Reaches

variable {verdict : Except Fault (Outcome (S.Value kind))} {counts : List (String × Nat)}
variable {r : Result (State S T) (Outcome (S.Value kind))}

theorem Reaches.of_ok (h : Reaches kind key pos depth verdict counts r) {o : Outcome (S.Value kind)}
    (ho : verdict = .ok o) :
    ∃ after, r = .done (o.withUsed (.single key)) after ∧ after.counts = counts := by
  subst ho
  obtain ⟨after, hr, -, hcounts⟩ := h
  exact ⟨after, hr, hcounts⟩

theorem Reaches.ne_exhausted (h : Reaches kind key pos depth verdict counts r) :
    r ≠ .exhausted := by
  rintro rfl
  cases verdict with
  | error fault =>
      obtain ⟨after, hr⟩ := h
      cases hr
  | ok o =>
      obtain ⟨after, hr, -⟩ := h
      cases hr

end Reaches

variable {body : Run S T (S.Value kind)} {counts : List (String × Nat)}

/-- On an input that is not too long, the level around the curtailed one has a depth that can be
counted. -/
theorem remaining_lt_depthLimit (hlength : input.tokens.length < 2 ^ 32 - 2) (pos : Nat) :
    input.remaining pos + 1 < Context.depthLimit := by
  have hremaining := input.remaining_le_length pos
  simp only [Context.depthLimit]
  omega

theorem memo_of_empty (hstate : state.lookup kind key pos = none)
    (hdepth : depth ≤ depthBound (input.remaining pos)) :
    memo input kind parity key body pos (.tracking key depth) state =
      refresh input kind parity key body pos (.tracking key depth) state := by
  have hmissed : Missed state kind key pos (.tracking key depth) := by
    intro o under hlookup
    rw [hstate] at hlookup
    cases hlookup
  rw [memo_of_missed hmissed, Context.depth_tracking, if_neg (Nat.not_lt.2 hdepth)]

variable (hstate : state.lookup kind key pos = none)
variable (hdepth : depth ≤ depthBound (input.remaining pos)) (hlimit : depth < Context.depthLimit)

include hstate hdepth hlimit

theorem reaches_of_stopped {fault : Fault}
    (hbody : body pos (.tracking key (depth + 1)) state = .stopped fault middle) :
    Reaches kind key pos depth (.error fault) counts
      (memo input kind parity key body pos (.tracking key depth) state) := by
  have hdeepen : deepen (.tracking key depth) key = .ok (.tracking key (depth + 1)) := by
    rw [deepen_eq_ok, Context.depth_tracking, Context.withDepth_tracking]
    exact ⟨hlimit, rfl⟩
  refine ⟨middle, ?_⟩
  rw [memo_of_empty hstate hdepth, refresh, hdeepen]
  show (body pos (.tracking key (depth + 1)) >>= _) state = _
  rw [Eval.bind_apply, hbody]

theorem reaches_of_done [LawfulMemoTable T] {fresh o : Outcome (S.Value kind)}
    (hbody : body pos (.tracking key (depth + 1)) state = .done fresh middle)
    (hkept : (keep input kind parity key pos (.tracking key depth) fresh middle).1 =
      o.withUsed (.single key)) (hcounts : middle.counts = counts) :
    Reaches kind key pos depth (.ok o) counts
      (memo input kind parity key body pos (.tracking key depth) state) := by
  refine ⟨(keep input kind parity key pos (.tracking key depth) fresh middle).2, ?_, ?_,
    keep_snd_counts.trans hcounts⟩
  · rw [memo_of_empty hstate hdepth, refresh_eq_done, Context.depth_tracking,
      Context.withDepth_tracking, ← hkept]
    exact ⟨hlimit, fresh, middle, hbody, rfl⟩
  · rw [lookup_keep_self, hkept, Outcome.used_withUsed, Context.pruned_tracking]

end Levels

end Run

/-! ## The whole recursion -/

/-- Behind a curtailment, an outcome is what it was, but depends on the curtailed rule. -/
theorem Outcome.Clean.behind_curtailment {τ : Type} {input : Input τ} {pos : Nat} {o : Outcome α}
    (h : o.Clean input pos) (used : Used) :
    o.behind ⟨.curtailment, pos, used⟩ = o.withUsed used := by
  cases o with
  | success s =>
      have hused : s.used = ∅ := h.used_eq
      simp only [Outcome.behind, Outcome.withUsed, hused]
      rfl
  | failure e =>
      exact congrArg Outcome.failure (Failure.curtailment_merge h.onward.le h.used_eq used)

namespace Run

variable [MemoTable T] [LawfulMemoTable T] {input : Input S.Token} {pos : Nat} {kind : S.Kind}

/-- Change the counters, and then run the parser. -/
def ticked (tick : List (String × Nat) → List (String × Nat)) (p : Run S T α) : Run S T α :=
  fun pos ctx state => p pos ctx { state with counts := tick state.counts }

/-- A rule that enters itself first, with less and less fuel, and what its parts come to.  Wherever
the body is entered, the counters may be changed. -/
structure Recursion (input : Input S.Token) (pos : Nat) (kind : S.Kind) (T : Type → Type)
    [MemoTable T] (β : Type) extends Growth input pos (S.Value kind) β where
  parity : Parity
  key : Key
  tick : List (String × Nat) → List (String × Nat)
  whole : Nat → Run S T (S.Value kind)
  step : Nat → Run S T β
  base : Nat → Run S T (S.Value kind)
  whole_succ : ∀ fuel, whole (fuel + 1) =
    memo input kind parity key
      (ticked tick (alt (onward join (whole fuel) (step fuel)) (base fuel)))
  base_eq : ∀ fuel ctx, input.remaining pos < fuel → base fuel pos ctx = Eval.ofExcept start
  step_eq : ∀ fuel ctx middle, input.Boundary middle → input.remaining middle < fuel →
    step fuel middle ctx = Eval.ofExcept (steps middle)

namespace Recursion

variable (r : Recursion input pos kind T β) {state : State S T}

omit [LawfulMemoTable T] in
/-- The level beyond the bound is curtailed. -/
theorem whole_curtailed (hlimit : input.remaining pos + 1 < Context.depthLimit)
    (hstate : state.lookup kind r.key pos = none) (fuel : Nat) :
    r.whole (fuel + 1) pos (.tracking r.key (input.remaining pos + 2)) state =
      .done (.failure { reason := .curtailment, pos, used := .single r.key })
        (state.note (.curtailed r.key pos (input.remaining pos + 2))) := by
  have hmissed : Missed state kind r.key pos (.tracking r.key (input.remaining pos + 2)) := by
    intro o under hlookup
    rw [hstate] at hlookup
    cases hlookup
  have hbound : depthBound (input.remaining pos) < input.remaining pos + 2 := by
    simp only [depthBound]
    omega
  rw [r.whole_succ, memo_of_missed hmissed, Context.depth_tracking, if_pos hbound]

/-- Around the curtailed level, the rule finds what `base` finds. -/
theorem innermost_reaches (hlimit : input.remaining pos + 1 < Context.depthLimit) {fuel : Nat}
    (hfuel : input.remaining pos < fuel) (hstate : state.lookup kind r.key pos = none) :
    Reaches kind r.key pos (input.remaining pos + 1) r.start (r.tick state.counts)
      (r.whole (fuel + 1) pos (.tracking r.key (input.remaining pos + 1)) state) := by
  obtain ⟨less, rfl⟩ : ∃ less, fuel = less + 1 := ⟨fuel - 1, by omega⟩
  have hdepth : input.remaining pos + 1 ≤ depthBound (input.remaining pos) := by
    simp only [depthBound]
    omega
  -- The curtailed level fails, the step behind it is not run, and `base` is what is left.
  have hticked : State.lookup { state with counts := r.tick state.counts } kind r.key pos = none :=
    hstate
  have hinner :=
    onward_of_failure r.join (r.step (less + 1)) (r.whole_curtailed hlimit hticked less)
  have hbody := alt_of_failure hinner rfl (r.base_eq (less + 1) _ hfuel)
  rw [r.whole_succ]
  cases hstart : r.start with
  | error fault =>
      rw [hstart] at hbody
      exact reaches_of_stopped hstate hdepth hlimit hbody
  | ok o =>
      rw [hstart] at hbody
      refine reaches_of_done hstate hdepth hlimit hbody ?_ rfl
      rw [keep_fst_of_none ?_]
      · exact (r.start_clean o hstart).behind_curtailment _
      · rw [State.lookup_note, hticked]
        cases o <;> rfl

section Next

variable (hpos : input.Boundary pos) {n depth fuel : Nat} {after : State S T}
variable (hdepth : depth ≤ depthBound (input.remaining pos)) (hlimit : depth < Context.depthLimit)
variable (hfuel : input.remaining pos < fuel) (hstate : state.lookup kind r.key pos = none)

include hdepth hlimit hfuel hstate

/-- Where the level inside failed, the level around it fails alike: nothing but `base` is left to
try, and that failed before. -/
theorem next_of_failure {e : Failure} (hlevel : r.level n = .ok (.failure e))
    (hinner : r.whole fuel pos (.tracking r.key (depth + 1))
        { state with counts := r.tick state.counts } =
      .done ((Outcome.failure e).withUsed (.single r.key)) after)
    (hlookup : after.lookup kind r.key pos =
      some ((Outcome.failure e).withUsed (.single r.key), .tracking r.key (depth + 1))) :
    Reaches kind r.key pos depth (.ok (.failure e)) after.counts
      (r.whole (fuel + 1) pos (.tracking r.key depth) state) := by
  have hfirst := onward_of_failure r.join (r.step fuel) hinner
  rw [r.whole_succ]
  cases he : e.isFatal with
  | true =>
      refine reaches_of_done hstate hdepth hlimit (alt_of_fatal hfirst he) ?_ rfl
      exact keep_fst_of_none (by rw [hlookup]; rfl)
  -- The failure of the level inside was that of `base`, which fails once more and merges with it.
  | false =>
      have hstart := r.start_of_level_failure hlevel he
      have hbody := alt_of_failure hfirst he (r.base_eq fuel _ hfuel)
      rw [hstart] at hbody
      refine reaches_of_done hstate hdepth hlimit hbody ?_ rfl
      rw [keep_fst_of_none (by rw [hlookup]; rfl)]
      exact congrArg Outcome.failure (Failure.merge_self he (r.start_clean _ hstart).used_eq _)

include hpos

/-- Where the level inside succeeded, the level around it takes a step.  If there is none, then
`base` is found again, and gives way to what the level inside stored. -/
theorem next_of_success {s : Success (S.Value kind)} (hlevel : r.level n = .ok (.success s))
    (hinner : r.whole fuel pos (.tracking r.key (depth + 1))
        { state with counts := r.tick state.counts } =
      .done ((Outcome.success s).withUsed (.single r.key)) after)
    (hlookup : after.lookup kind r.key pos =
      some ((Outcome.success s).withUsed (.single r.key), .tracking r.key (depth + 1))) :
    Reaches kind r.key pos depth (r.grown 1 s) after.counts
      (r.whole (fuel + 1) pos (.tracking r.key depth) state) := by
  obtain ⟨first, hstart, hs, hremaining, hgrown⟩ := r.start_of_level_success hpos hlevel
  have hless : input.remaining s.pos < fuel := Nat.lt_of_le_of_lt hremaining hfuel
  have hfirst := onward_of_success r.join hinner (r.step_eq fuel _ s.pos hs hless)
  rw [r.whole_succ, Growth.grown]
  cases hstep : r.steps s.pos with
  | error fault =>
      rw [hstep] at hfirst
      exact reaches_of_stopped hstate hdepth hlimit (alt_of_stopped hfirst)
  | ok second =>
      have hsecond := r.steps_clean s.pos second hs hstep
      rw [hstep, Except.map, (hsecond.map _).after_eq] at hfirst
      cases second with
      | success t =>
          have hmove : s.pos ≤ t.pos := hsecond.onward.le
          refine reaches_of_done hstate hdepth hlimit (alt_of_success hfirst) ?_ rfl
          exact keep_fst_of_none (by rw [hlookup]; exact if_neg (Nat.not_lt.2 hmove))
      | failure e =>
          show Reaches kind r.key pos depth (.ok (if e.isFatal then .failure e else .success s)) _ _
          cases he : e.isFatal with
          | true =>
              -- The stored success tracks one level more, so it is not preferred to a failure.
              refine reaches_of_done hstate hdepth hlimit (alt_of_fatal hfirst he) ?_ rfl
              exact keep_fst_of_none (by rw [hlookup]; exact preferred_failure _ _ _ _ _ _)
          | false =>
              have hfresh : first.used = ∅ := (r.start_clean _ hstart).used_eq
              have hbody := alt_of_failure hfirst he (r.base_eq fuel _ hfuel)
              rw [hstart] at hbody
              refine reaches_of_done hstate hdepth hlimit hbody ?_ rfl
              -- `base` is fresh again.  It gives way where the stored success reaches further, and
              -- is that success where it does not.
              by_cases hshort : first.pos < s.pos
              · refine keep_fst_of_some (s := { s with used := .single r.key }) ?_
                rw [hlookup]
                exact if_pos hshort
              · rw [keep_fst_of_none (by rw [hlookup]; exact if_neg hshort)]
                obtain rfl := hgrown.resolve_right hshort
                simp [Outcome.behind, Outcome.withUsed, hfresh]

/-- A level finds one step more than the level inside, and counts nothing behind it. -/
theorem next_reaches {counts : List (String × Nat)}
    (hinner : Reaches kind r.key pos (depth + 1) (r.level n) counts
      (r.whole fuel pos (.tracking r.key (depth + 1))
        { state with counts := r.tick state.counts })) :
    Reaches kind r.key pos depth (r.level (n + 1)) counts
      (r.whole (fuel + 1) pos (.tracking r.key depth) state) := by
  rw [r.level_succ]
  cases hlevel : r.level n with
  | error fault =>
      rw [hlevel] at hinner
      obtain ⟨after, hinner⟩ := hinner
      rw [r.whole_succ]
      exact reaches_of_stopped hstate hdepth hlimit
        (alt_of_stopped (onward_of_stopped r.join (r.step fuel) hinner))
  | ok o =>
      rw [hlevel] at hinner
      obtain ⟨after, hinner, hlookup, rfl⟩ := hinner
      cases o with
      | failure e => exact r.next_of_failure hdepth hlimit hfuel hstate hlevel hinner hlookup
      | success s => exact r.next_of_success hpos hdepth hlimit hfuel hstate hlevel hinner hlookup

end Next

/-- The level at a depth finds as many steps as there are levels between it and the innermost, and
each of these levels changes the counters once. -/
theorem whole_reaches (hpos : input.Boundary pos)
    (hlimit : input.remaining pos + 1 < Context.depthLimit) {n depth fuel : Nat}
    (hlevels : depth + n = input.remaining pos + 1) (hfuel : input.remaining pos + n + 1 < fuel)
    (hstate : state.lookup kind r.key pos = none) :
    Reaches kind r.key pos depth (r.level n) (r.tick^[n + 1] state.counts)
      (r.whole fuel pos (.tracking r.key depth) state) := by
  -- The induction is on the levels between this one and the innermost.
  induction n generalizing depth fuel state with
  | zero =>
      obtain rfl : depth = input.remaining pos + 1 := hlevels
      obtain ⟨less, rfl⟩ : ∃ less, fuel = less + 1 := ⟨fuel - 1, by omega⟩
      rw [r.level_zero]
      exact r.innermost_reaches hlimit (by omega) hstate
  | succ n ih =>
      obtain ⟨less, rfl⟩ : ∃ less, fuel = less + 1 := ⟨fuel - 1, by omega⟩
      have hdepth : depth ≤ depthBound (input.remaining pos) := by
        simp only [depthBound]
        omega
      have hticked : State.lookup { state with counts := r.tick state.counts } kind r.key pos =
          none := hstate
      rw [Function.iterate_succ_apply]
      exact r.next_reaches hpos hdepth (by omega) (by omega) hstate
        (ih (by omega) (by omega) hticked)

end Recursion

end Run

end LeftRec
