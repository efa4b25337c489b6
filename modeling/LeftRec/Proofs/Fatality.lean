import LeftRec.Memo.Ordered
import LeftRec.Proofs.Nesting
import LeftRec.Proofs.Provenance
import LeftRec.Samples.Text

/-!
# Fatality — how far a fatal failure gets

A fatal failure passes every combinator unchanged: no choice tries another alternative, no
repetition ends before it, no label renames it.  Only a lookahead turns it into a success, and so
does, against its name, the rule by which a memoized parser takes a stored success in place of a
failure of its body.  That rule does not ask whether the failure is fatal.

Such a success is found by the parser itself, deeper in its own recursion.  It may be reused outside
only because it does not say that it depends on that recursion.
-/

namespace LeftRec

variable {S : Signature} {T : Type → Type} {α β γ : Type}

/-! ## Failing -/

/-- The result is a failure for a reason at a position. -/
def Result.Fails {σ : Type} (reason : Reason) (stop : Nat) (r : Result σ (Outcome α)) : Prop :=
  ∃ used state, r = .done (.failure { reason, pos := stop, used }) state

namespace Run

variable {p : Run S T α} {q : Run S T β} {pos stop start : Nat} {ctx : Context}
variable {state middle : State S T} {reason : Reason}

theorem fails_tryMap (f : α → Except Fault β) (hp : (p pos ctx state).Fails reason stop) :
    (tryMap f p pos ctx state).Fails reason stop := by
  obtain ⟨used, after, h⟩ := hp
  exact ⟨used, after, tryMap_eq_done.2 (.inl ⟨_, h, rfl⟩)⟩

/-! ### Sequences -/

theorem fails_first {join : Success α → Outcome β → Outcome γ} {next : α → Run S T β}
    {whole : Run S T γ} (hwhole : Chains join p next whole)
    (hp : (p pos ctx state).Fails reason stop) : (whole pos ctx state).Fails reason stop := by
  obtain ⟨used, after, h⟩ := hp
  exact ⟨used, after, hwhole.2 (.inl ⟨_, h, rfl⟩)⟩

theorem fails_second {join : Success α → Outcome β → Outcome γ} {next : α → Run S T β}
    {whole : Run S T γ} (hwhole : Chains join p next whole)
    (hjoin : ∀ s e, join s (.failure e) = .failure e) {s : Success α}
    (hp : p pos ctx state = .done (.success s) middle)
    (hq : (next s.value s.pos (ctx.carried pos s.pos) middle).Fails reason stop) :
    (whole pos ctx state).Fails reason stop := by
  obtain ⟨used, after, h⟩ := hq
  exact ⟨_, after, hwhole.2 (.inr ⟨s, middle, hp, _, h, by rw [hjoin]; rfl⟩)⟩

/-- What is left of a row fails if its next part does, or what follows that. -/
theorem fails_rowFrom_cons_iff {p : Run S T α} {rest : List (Run S T α)} {used : Used} :
    (rowFrom start ctx (p :: rest) pos used state).Fails reason stop ↔
      (p pos (ctx.carried start pos) state).Fails reason stop ∨
        ∃ s middle, p pos (ctx.carried start pos) state = .done (.success s) middle ∧
          (rowFrom start ctx rest s.pos (.sequenced start s.pos used s.used) middle).Fails
            reason stop := by
  constructor
  · rintro ⟨last, after, h⟩
    rcases rowFrom_cons_eq_done.1 h with ⟨e, hp, he⟩ | ⟨s, middle, hp, others, hrest, he⟩
    · obtain ⟨reason, at', own⟩ := e
      obtain ⟨rfl, rfl, -⟩ := Failure.mk.inj (Outcome.failure.inj he)
      exact .inl ⟨own, after, hp⟩
    · cases others with
      | success s => cases he
      | failure e =>
          obtain rfl := Outcome.failure.inj he
          exact .inr ⟨s, middle, hp, last, after, hrest⟩
  · rintro (⟨own, after, hp⟩ | ⟨s, middle, hp, last, after, hrest⟩)
    · exact ⟨_, after, rowFrom_cons_eq_done.2 (.inl ⟨_, hp, rfl⟩)⟩
    · exact ⟨last, after, rowFrom_cons_eq_done.2 (.inr ⟨s, middle, hp, _, hrest, rfl⟩)⟩

/-- Whether the rest of a row fails does not depend on what was used before. -/
theorem fails_rowFrom_used {parts : List (Run S T α)} {used : Used} (other : Used)
    (h : (rowFrom start ctx parts pos used state).Fails reason stop) :
    (rowFrom start ctx parts pos other state).Fails reason stop := by
  induction parts generalizing pos used other state with
  | nil =>
      obtain ⟨_, _, h⟩ := h
      cases (Eval.pure_eq_done.1 h).1
  | cons p rest ih =>
      rcases fails_rowFrom_cons_iff.1 h with hp | ⟨s, middle, hp, hrest⟩
      · exact fails_rowFrom_cons_iff.2 (.inl hp)
      · exact fails_rowFrom_cons_iff.2 (.inr ⟨s, middle, hp, ih _ hrest⟩)

/-- A row fails as what comes of it after nothing does. -/
theorem fails_row {parts : List (Run S T α)}
    (h : (rowFrom pos ctx parts pos ∅ state).Fails reason stop) :
    (row parts pos ctx state).Fails reason stop := by
  cases parts with
  | nil =>
      obtain ⟨_, _, h⟩ := h
      cases (Eval.pure_eq_done.1 h).1
  | cons p rest =>
      rcases fails_rowFrom_cons_iff.1 h with ⟨own, after, hp⟩ | ⟨s, middle, hp, hrest⟩
      · rw [Context.carried_self] at hp
        exact ⟨own, after, row_cons_eq_done.2 (.inl ⟨_, hp, rfl⟩)⟩
      · rw [Context.carried_self] at hp
        obtain ⟨last, after, hrest⟩ := fails_rowFrom_used s.used hrest
        exact ⟨last, after, row_cons_eq_done.2 (.inr ⟨s, middle, hp, _, hrest, rfl⟩)⟩

/-! ### Choice -/

theorem fails_alt_left {q : Run S T α} (hfatal : reason.isFatal = true)
    (hp : (p pos ctx state).Fails reason stop) : (alt p q pos ctx state).Fails reason stop := by
  obtain ⟨used, after, h⟩ := hp
  exact ⟨used, after, alt_eq_done.2 (.inr (.inl ⟨_, h, hfatal, rfl⟩))⟩

theorem fails_alt_right {q : Run S T α} (hfatal : reason.isFatal = true) {e : Failure}
    (hp : p pos ctx state = .done (.failure e) middle) (he : e.isFatal = false)
    (hq : (q pos ctx middle).Fails reason stop) : (alt p q pos ctx state).Fails reason stop := by
  obtain ⟨used, after, h⟩ := hq
  refine ⟨e.used.union used, after,
    alt_eq_done.2 (.inr (.inr ⟨e, middle, hp, he, .inr ⟨_, h, ?_⟩⟩))⟩
  have hsecond : (⟨reason, stop, used⟩ : Failure).isFatal = true := hfatal
  simp [Failure.merge, he, hsecond]

theorem fails_label (name : String) (hfatal : reason.isFatal = true)
    (hp : (p pos ctx state).Fails reason stop) :
    (label name p pos ctx state).Fails reason stop := by
  obtain ⟨used, after, h⟩ := hp
  have he : (⟨reason, stop, used⟩ : Failure).isFatal = true := hfatal
  exact ⟨used, after, label_eq_done.2 ⟨_, h, by simp [Outcome.mapFailure, relabel, he]⟩⟩

theorem fails_commit (hfatal : reason.isFatal = true) (hp : (p pos ctx state).Fails reason stop) :
    (commit p pos ctx state).Fails reason stop := by
  obtain ⟨used, after, h⟩ := hp
  refine ⟨used, after, commit_eq_done.2 ⟨_, h, ?_⟩⟩
  cases reason with
  | fatal text => rfl
  | expected | curtailment | stated => cases hfatal

/-! ### Repetition -/

theorem fails_many (rounds : Nat) (hfatal : reason.isFatal = true)
    (hp : (p pos ctx state).Fails reason stop) :
    (many rounds p pos ctx state).Fails reason stop := by
  obtain ⟨used, after, h⟩ := hp
  refine ⟨used, after, many_eq_done.2 (.inl ⟨_, h, ?_⟩)⟩
  exact (if_pos hfatal).symm

/-- A repetition fails if it fails when it is begun again after a round. -/
theorem fails_many_next {rounds : Nat} {s : Success α}
    (hp : p pos ctx state = .done (.success s) middle) (hmoved : s.pos ≠ pos)
    (hrest : (many rounds p s.pos ∅ middle).Fails reason stop) :
    (many (rounds + 1) p pos ctx state).Fails reason stop := by
  obtain ⟨used, after, h⟩ := hrest
  suffices hfrom : (manyFrom p (rounds + 1) s.pos middle).Fails reason stop by
    obtain ⟨last, after, hfrom⟩ := hfrom
    exact ⟨_, after, many_eq_done.2 (.inr (.inr ⟨s, middle, hp, hmoved, _, hfrom, rfl⟩))⟩
  rcases many_eq_done.1 h with ⟨e, hround, he⟩ | ⟨_, _, _, he⟩ |
    ⟨s', middle', hround, hmoved', others, hrest, he⟩
  · split at he
    next hefatal =>
      obtain rfl := Outcome.failure.inj he
      exact ⟨used, after, manyFrom_succ_eq_done.2 (.inl ⟨_, hround, (if_pos hefatal).symm⟩)⟩
    next => cases he
  · cases he
  · cases others with
    | success s => cases he
    | failure e =>
        obtain ⟨reason, at', own⟩ := e
        obtain ⟨rfl, rfl, -⟩ := Failure.mk.inj (Outcome.failure.inj he)
        exact ⟨own, after, manyFrom_succ_eq_done.2
          (.inr (.inr ⟨s', middle', hround, hmoved', _, hrest, rfl⟩))⟩

end Run

/-- The parser's outermost operation is no lookahead. -/
def Parser.Lookless : Parser S α → Prop
  | .look _ => False
  | _ => True

namespace Grammar

variable [MemoTable T] {G : Grammar S} {input : Input S.Token} {reason : Reason} {stop : Nat}

/-! ## Failing with enough fuel -/

variable (G input) in
/-- With enough fuel the visit's parser fails for a reason at a position. -/
def Fails (v : Visit S T) (reason : Reason) (stop : Nat) : Prop :=
  ∃ enough, ∀ fuel, enough ≤ fuel →
    (G.run input fuel v.parser v.pos v.ctx v.state).Fails reason stop

theorem run_more {fuel more : Nat} (h : fuel ≤ more) {p : Parser S α} {pos : Nat} {ctx : Context}
    {state after : State S T} {o : Outcome α}
    (hrun : G.run input fuel p pos ctx state = .done o after) :
    G.run input more p pos ctx state = .done o after :=
  (run_le h p pos ctx).done hrun

theorem Fails.of_run {v : Visit S T} (fuel : Nat)
    (h : (G.run input fuel v.parser v.pos v.ctx v.state).Fails reason stop) :
    G.Fails input v reason stop := by
  obtain ⟨used, after, hrun⟩ := h
  exact ⟨fuel, fun more hmore => ⟨used, after, run_more hmore hrun⟩⟩

/-- To fail where a part fails it is enough to do so with some fuel that suffices for both. -/
theorem Fails.whole {v w : Visit S T} (hw : G.Fails input w reason stop) (least : Nat)
    (h : ∀ fuel, least ≤ fuel →
      (G.run input (fuel + 1) w.parser w.pos w.ctx w.state).Fails reason stop →
        (G.run input (fuel + 1) v.parser v.pos v.ctx v.state).Fails reason stop) :
    G.Fails input v reason stop := by
  obtain ⟨enough, hw⟩ := hw
  exact .of_run _ (h (max least enough) (Nat.le_max_left _ _) (hw _ (by omega)))

section Progress

variable {fuel enough start : Nat} {ctx : Context} {state : State S T}

theorem RowAt.more {parts rest : List (Parser S α)} {pos : Nat} {middle : State S T}
    (h : G.RowAt input fuel start ctx parts state rest pos middle) (hmore : fuel ≤ enough) :
    G.RowAt input enough start ctx parts state rest pos middle := by
  induction h with
  | start => exact .start
  | next _ hrun ih => exact .next ih (run_more hmore hrun)

theorem ManyAt.more {p : Parser S α} {pos : Nat} {under : Context} {middle : State S T}
    (h : G.ManyAt input fuel p start ctx state pos under middle) (hmore : fuel ≤ enough) :
    G.ManyAt input enough p start ctx state pos under middle := by
  induction h with
  | start => exact .start
  | next _ hrun hmoved ih => exact .next ih (run_more hmore hrun) hmoved

theorem RowAt.fails {parts rest : List (Parser S α)} {pos : Nat} {middle : State S T}
    (h : G.RowAt input fuel start ctx parts state rest pos middle)
    (hrest : (Run.rowFrom start ctx (rest.map fun p => G.run input fuel p) pos ∅ middle).Fails
      reason stop) :
    (Run.row (parts.map fun p => G.run input fuel p) start ctx state).Fails reason stop := by
  induction h with
  | start => exact Run.fails_row hrest
  | next _ hrun ih =>
      refine ih (Run.fails_rowFrom_cons_iff.2 (.inr ⟨_, _, hrun, ?_⟩))
      exact Run.fails_rowFrom_used _ hrest

/-- A repetition that has come to some round fails, in enough rounds, if it fails when it is begun
there. -/
theorem ManyAt.fails {p : Parser S α} {pos rounds : Nat} {under : Context} {middle : State S T}
    (h : G.ManyAt input fuel p start ctx state pos under middle)
    (hround : (Run.many rounds (G.run input fuel p) pos under middle).Fails reason stop) :
    ∃ rounds, (Run.many rounds (G.run input fuel p) start ctx state).Fails reason stop := by
  induction h generalizing rounds with
  | start => exact ⟨rounds, hround⟩
  | next _ hrun hmoved ih => exact ih (Run.fails_many_next hrun hmoved hround)

end Progress

/-! ## What may stand in for a failure -/

variable (G input) in
/-- The visit of a memoized parser whose body fails takes a stored success in place of the failure.
The body itself came to that success on its way, in a visit under the same key, and the success does
not say that it depends on the key. -/
inductive Replaces : Visit S T → Reason → Nat → Prop
  | memo {kind : S.Kind} {parity : Parity} {key : Key} {p : Parser S (S.Value kind)}
      {fuel more pos : Nat} {ctx under : Context} {state middle : State S T}
      {reason : Reason} {stop : Nat} {used : Used} {s : Success (S.Value kind)} {u : Visit S T} :
      G.run input more p pos (ctx.withDepth key (ctx.depth key + 1)) state =
          .done (.failure { reason, pos := stop, used }) middle →
        parity.prefersStored (input.remaining pos) = true →
        middle.lookup kind key pos = some (.success s, under) → ctx.canReuse under = true →
        G.Visits input ⟨p, more, pos, ctx.withDepth key (ctx.depth key + 1), state⟩ u →
        G.Stores input u (key, pos) ⟨kind, .success s, under⟩ → key ∉ s.used →
        Replaces ⟨.memo kind parity key p, fuel, pos, ctx, state⟩ reason stop

variable [LawfulMemoTable T]

/-! ### Contexts grow where nothing is consumed -/

theorem Enters.ctx_le {v w : Visit S T} (h : G.Enters input v w)
    (hv : G.OnCourse (.ahead input) v) (hpos : w.pos = v.pos) : v.ctx.Le w.ctx := by
  -- A part that follows another one at the same position gets the same context.
  have hcarried {ctx : Context} {pos stop : Nat} (hstop : stop = pos) :
      ctx.Le (ctx.carried pos stop) := by
    rw [hstop, Context.carried_self]
    exact .refl ctx
  cases h with
  | count | tryMap | zipWithLeft | bindFirst | altLeft | altRight | label | commit | look | ref
  | copy => exact .refl _
  | zipWithRight | bindNext | row => exact hcarried hpos
  | many p hat =>
      obtain ⟨-, hunder, -⟩ := hat.ahead (hv.offered.part (.many p)) hv.along
      simp only [hunder]
      exact hcarried hpos
  | memo parity key p => exact Context.le_withDepth _ key

theorem OnCourse.ctx_le {root w : Visit S T} (h : G.OnCourse (.ahead input) root)
    (hvisits : G.Visits input root w) (hpos : w.pos = root.pos) : root.ctx.Le w.ctx := by
  induction hvisits with
  | refl => exact .refl _
  | @tail v w hvisits henters ih =>
      obtain ⟨hv, hle⟩ := h.visits hvisits
      obtain ⟨-, hle'⟩ := hv.enters henters
      -- Positions never go back, so the visit between the two is at the same position.
      have hle : root.pos ≤ v.pos := hle
      have hle' : v.pos ≤ w.pos := hle'
      exact (ih (by omega)).trans (henters.ctx_le hv (by omega))

/-- A success that a body's own recursion stored and that may be reused around the body does not
name the key. -/
theorem Stores.not_mem_used {u : Visit S T} {kind : S.Kind} {key : Key} {pos more : Nat}
    {ctx under : Context} {state : State S T} {s : Success (S.Value kind)}
    {p : Parser S (S.Value kind)} (hstores : G.Stores input u (key, pos) ⟨kind, .success s, under⟩)
    (hbody : G.OnCourse (.ahead input)
      ⟨p, more, pos, ctx.withDepth key (ctx.depth key + 1), state⟩)
    (hvisits : G.Visits input ⟨p, more, pos, ctx.withDepth key (ctx.depth key + 1), state⟩ u)
    (hreuse : ctx.canReuse under = true) : key ∉ s.used := by
  intro hused
  cases hstores with
  | @memo _ _ _ _ _ _ inner _ _ _ _ _ hrun =>
      -- Inside the body the key is tracked more deeply than around it.
      have hdeep := (hbody.ctx_le hvisits rfl).depth_le key
      have hle := Context.depth_le_of_canReuse hreuse hused
      rw [Context.depth_withDepth, if_pos rfl] at hdeep
      exact Nat.not_succ_le_self _ (Nat.le_trans hdeep hle)

/-! ## One step, and whole runs -/

section Steps

variable {kind : S.Kind} {parity : Parity} {key : Key} {p : Parser S (S.Value kind)}
variable {fuel pos : Nat} {ctx : Context} {state : State S T}

/-- A memoized parser fails as its body does, unless a stored success stands in. -/
theorem Fails.memo (hv : G.OnCourse (.ahead input) ⟨.memo kind parity key p, fuel, pos, ctx, state⟩)
    (hmissed : Run.Missed state kind key pos ctx)
    (hdepth : ctx.depth key ≤ Run.depthBound (input.remaining pos))
    (hlimit : ctx.depth key < Context.depthLimit)
    (hbody : G.Fails input
      ⟨p, fuel, pos, ctx.withDepth key (ctx.depth key + 1), state⟩ reason stop) :
    G.Fails input ⟨.memo kind parity key p, fuel, pos, ctx, state⟩ reason stop ∨
      G.Replaces input ⟨.memo kind parity key p, fuel, pos, ctx, state⟩ reason stop := by
  obtain ⟨enough, hbody⟩ := hbody
  obtain ⟨used, middle, hrun⟩ := hbody (enough + 1) (Nat.le_succ _)
  have hmemo := Run.memo_of_body parity hmissed hdepth hlimit hrun
  cases hpreferred : Run.preferred parity (input.remaining pos) ctx
      (.failure { reason, pos := stop, used }) (middle.lookup kind key pos) with
  | none =>
      rw [Run.keep_of_none hpreferred] at hmemo
      exact .inl (.of_run (enough + 1) ⟨used, _, hmemo⟩)
  | some s =>
      right
      obtain ⟨under, hlookup⟩ := Run.lookup_of_preferred hpreferred
      rw [hlookup] at hpreferred
      simp only [Run.preferred, Option.ite_none_right_eq_some, Bool.and_eq_true, and_true]
        at hpreferred
      obtain ⟨hparity, hreuse⟩ := hpreferred
      -- The success was not there before, so the body has stored it.
      have hbegin : G.OnCourse (.ahead input)
          ⟨p, enough + 1, pos, ctx.withDepth key (ctx.depth key + 1), state⟩ :=
        { offered := hv.offered.part (.memo kind parity key p)
          starts := trivial
          along := hv.along }
      have hpasses : G.Passes input
          ⟨p, enough + 1, pos, ctx.withDepth key (ctx.depth key + 1), state⟩ middle :=
        ⟨_, .refl, .inr (congrArg Result.state? hrun)⟩
      rcases hpasses.provenance hbegin.offered.composed (State.lookup_eq_some.1 hlookup) with
        hold | ⟨u, hvisits, hstores⟩
      · rw [hmissed _ _ (State.lookup_eq_some.2 hold)] at hreuse
        cases hreuse
      · exact .memo hrun hparity hlookup hreuse hvisits hstores
          (hstores.not_mem_used hbegin hvisits hreuse)

end Steps

/-- A visit fails as a visit that it enters does, unless a stored success stands in. -/
theorem Fails.of_enters {v w : Visit S T} (hw : G.Fails input w reason stop)
    (hfatal : reason.isFatal = true) (hv : G.OnCourse (.ahead input) v)
    (hlook : v.parser.Lookless) (henters : G.Enters input v w) :
    G.Fails input v reason stop ∨ G.Replaces input v reason stop := by
  -- What was run before the visit is run again with more fuel, and comes to the same.
  cases henters with
  | count what p => exact hv.offered.holds.elim
  | tryMap f p => exact .inl (hw.whole 0 fun _ _ => Run.fails_tryMap f)
  | zipWithLeft f p q =>
      exact .inl (hw.whole 0 fun _ _ => Run.fails_first (Run.chains_zipWith f _ _))
  | @zipWithRight _ _ _ f p q least _ _ _ _ _ hrun =>
      exact .inl (hw.whole least fun _ hmore => Run.fails_second (Run.chains_zipWith f _ _)
        (fun _ _ => rfl) (run_more (Nat.le_succ_of_le hmore) hrun))
  | bindFirst p f =>
      exact .inl (hw.whole 0 fun fuel _ => Run.fails_first
        (Run.chains_bind _ fun a => G.run input (fuel + 1) (f a)))
  | @bindNext _ _ p f least _ _ _ _ _ hrun =>
      exact .inl (hw.whole least fun fuel hmore => Run.fails_second
        (Run.chains_bind _ fun a => G.run input (fuel + 1) (f a)) (fun _ _ => rfl)
        (run_more (Nat.le_succ_of_le hmore) hrun))
  | altLeft p q => exact .inl (hw.whole 0 fun _ _ => Run.fails_alt_left hfatal)
  | @altRight _ p q least _ _ _ _ _ hrun he =>
      exact .inl (hw.whole least fun _ hmore =>
        Run.fails_alt_right hfatal (run_more (Nat.le_succ_of_le hmore) hrun) he)
  | label name p => exact .inl (hw.whole 0 fun _ _ => Run.fails_label name hfatal)
  | commit p => exact .inl (hw.whole 0 fun _ _ => Run.fails_commit hfatal)
  | look p => exact hlook.elim
  | @row _ count part least start ctx state pos middle p rest hat =>
      refine .inl (hw.whole least fun fuel hmore hp => ?_)
      rw [run_row]
      refine (hat.more (Nat.le_succ_of_le hmore)).fails ?_
      obtain ⟨used, after, hp⟩ := hp
      exact ⟨_, after, Run.rowFrom_cons_eq_done.2 (.inl ⟨_, hp, rfl⟩)⟩
  | @many _ p least start ctx state pos under middle hat =>
      obtain ⟨enough, hw⟩ := hw
      -- The rounds up to this one need fuel of their own.
      have hround := hw (max least enough) (Nat.le_max_right _ _)
      obtain ⟨rounds, used, after, hmany⟩ := (hat.more (Nat.le_max_left _ _)).fails
        (Run.fails_many 0 hfatal hround)
      refine .inl (.of_run (max rounds (max least enough) + 1) ⟨used, after, ?_⟩)
      exact (Run.many_le (run_le (Nat.le_succ_of_le (Nat.le_max_right _ _)) p)
        (Nat.le_max_left _ _) start ctx).done hmany
  | memo parity key p hmissed hdepth hlimit => exact hw.memo hv hmissed hdepth hlimit
  | ref hdefine =>
      obtain ⟨enough, hw⟩ := hw
      obtain ⟨used, after, hbody⟩ := hw enough (Nat.le_refl _)
      exact .inl (.of_run (enough + 1)
        ⟨used, after, call_rule_eq_done.2 ⟨_, hdefine, hbody⟩⟩)
  | copy hfill =>
      obtain ⟨enough, hw⟩ := hw
      obtain ⟨used, after, hbody⟩ := hw enough (Nat.le_refl _)
      exact .inl (.of_run (enough + 1)
        ⟨used, after, call_copy_eq_done.2 ⟨_, _, hfill, hbody⟩⟩)

/-- In a run of parsers that look nowhere ahead, a fatal failure of any visit is the failure of the
whole run, for the same reason and at the same position, unless a memoized visit around it takes a
success in place of just this failure.  It takes only a success to which its own body came at the
same position, deeper in its recursion, and which does not name the key. -/
theorem fatal_fails {root w : Visit S T} (hoffered : G.Built Parser.Offered root.parser)
    (hlook : G.Built Parser.Lookless root.parser) (hstate : root.state.Along (.ahead input))
    (hvisits : G.Visits input root w) {e : Failure} {after : State S T}
    (hfail : G.visit input w = .done (.failure e) after) (hfatal : e.isFatal = true) :
    G.Fails input root e.reason e.pos ∨
      ∃ v, G.Visits input root v ∧ G.Visits input v w ∧ G.Replaces input v e.reason e.pos := by
  have hroot : G.OnCourse (.ahead input) root :=
    { offered := hoffered, starts := trivial, along := hstate }
  -- Going outwards from the failure, it stays the same until something stands in for it.
  suffices hout : ∀ v, G.Visits input root v → G.Visits input v w →
      G.Fails input v e.reason e.pos ∨
        ∃ u, G.Visits input v u ∧ G.Visits input u w ∧ G.Replaces input u e.reason e.pos from
    hout root .refl hvisits
  intro v hv hvw
  induction hvw using Relation.ReflTransGen.head_induction_on with
  | refl => exact .inl (.of_run _ ⟨e.used, after, hfail⟩)
  | @head v u henters huw ih =>
      rcases ih (hv.tail henters) with hfails | ⟨x, hux, hxw, hreplaces⟩
      · rcases hfails.of_enters hfatal (hroot.visits hv).1 (hlook _ (Visits.uses hv)) henters with
          hfails | hreplaces
        · exact .inl hfails
        · exact .inr ⟨v, .refl, huw.head henters, hreplaces⟩
      · exact .inr ⟨x, hux.head henters, hxw, hreplaces⟩

/-! ### A failure that is stepped over -/

/-- A committed letter behind the rule, or the first letter, after nothing. -/
def marked : Parser (TextSignature Unit String) String :=
  let e : Parser (TextSignature Unit String) String := .ref (S := TextSignature Unit String) ()
  Parser.empty.next ((e.skip (Parser.text "y").commit) ||| Parser.text "x")

/-- The rule is `e = (e commit("y")) | "x"`, with nothing before the choice. -/
def markedRule : Grammar (TextSignature Unit String) where
  define _ := some (.memo (S := TextSignature Unit String) () .even (.id 0) marked)

/-- The rule at the start of a text. -/
def markedRoot : Visit (TextSignature Unit String) OrderedTable :=
  ⟨.ref (S := TextSignature Unit String) (), 20, 0, ∅, .new⟩

/-- The body of the rule, one level deeper. -/
def markedInner : Visit (TextSignature Unit String) OrderedTable :=
  ⟨marked, 18, 0, ((∅ : Context).withDepth (.id 0) 1).withDepth (.id 0) 2, .new⟩

/-- The rule, taken apart. -/
def markedNode : MemoNode (TextSignature Unit String) :=
  ⟨(), .even, .id 0, marked⟩

/-- All that the rule uses is offered, no lookahead, and memoized at most once. -/
theorem built_marked :
    markedRule.Built Parser.Offered markedRoot.parser ∧
      markedRule.Built Parser.Lookless markedRoot.parser ∧
      markedRule.Built (Parser.Listed [markedNode]) markedRoot.parser := by
  have hunlisted {β : Type} {p : Parser (TextSignature Unit String) β} (h : p.node? = none) :
      p.Listed [markedNode] := by
    intro node hnode
    cases h.symm.trans hnode
  -- All three properties hold of the rule and, outermost operation by operation, of its body.
  refine ⟨.of_defined trivial fun _ => ⟨trivial, ?_⟩, .of_defined trivial fun _ => ⟨trivial, ?_⟩,
    .of_defined (hunlisted rfl) fun _ => ⟨?_, ?_⟩⟩
  · exact ⟨trivial, trivial, trivial,
      ⟨trivial, trivial, trivial, trivial, trivial⟩, trivial, trivial⟩
  · exact ⟨trivial, trivial, trivial,
      ⟨trivial, trivial, trivial, trivial, trivial⟩, trivial, trivial⟩
  · intro node hnode
    obtain rfl := Option.some.inj hnode
    exact List.mem_singleton_self _
  · exact ⟨hunlisted rfl, hunlisted rfl, hunlisted rfl,
      ⟨hunlisted rfl, hunlisted rfl, hunlisted rfl, hunlisted rfl, hunlisted rfl⟩, hunlisted rfl,
      hunlisted rfl⟩

/-- The inner body is run in the course of the rule, on a letter without the one that is committed
to, and fails for a fatal reason.  The rule succeeds all the same. -/
theorem run_markedRule :
    markedRule.Visits (Input.ofText "x") markedRoot markedInner ∧
    (∃ after, markedRule.visit (Input.ofText "x") markedInner =
      .done (.failure { reason := .fatal "Expected y", pos := 1, used := ∅ }) after) ∧
    ∃ after, markedRule.visit (Input.ofText "x") markedRoot =
      .done (.success { value := "x", pos := 1, used := ∅ }) after := by
  have hmissed (ctx : Context) :
      Run.Missed (S := TextSignature Unit String) (T := OrderedTable) .new () (.id 0) 0 ctx := by
    intro o under hlookup
    have hempty : (.new : State (TextSignature Unit String) OrderedTable).NoEntries :=
      State.noEntries_new
    cases (hempty () (.id 0) 0).symm.trans hlookup
  refine ⟨?_, ?_, ?_⟩
  -- Into the body, along its left edge to the reference, and into the body once more.
  · refine .head (.ref rfl) (.head (.memo .even (.id 0) marked (hmissed ∅) (by decide)
      (by decide)) ?_)
    refine .head (.zipWithRight _ _ _ rfl) (.head (.altLeft _ _) (.head (.zipWithLeft _ _ _) ?_))
    exact .head (.ref rfl)
      (.head (.memo .even (.id 0) marked (hmissed _) (by decide) (by decide)) .refl)
  · exact Result.exists_of_finished (α := Outcome String) (by decide +kernel)
  · exact Result.exists_of_finished (α := Outcome String) (by decide +kernel)

/-- The rule steps over the failure of its body, so some visit around that takes a success in its
place. -/
theorem fatal_fails_markedRule :
    ∃ v, markedRule.Visits (Input.ofText "x") markedRoot v ∧
      markedRule.Visits (Input.ofText "x") v markedInner ∧
      markedRule.Replaces (Input.ofText "x") v (.fatal "Expected y") 1 := by
  obtain ⟨hvisits, ⟨after, hinner⟩, last, hroot⟩ := run_markedRule
  obtain ⟨hoffered, hlook, -⟩ := built_marked
  rcases fatal_fails hoffered hlook (State.noEntries_new.along _) hvisits hinner rfl with
    ⟨enough, hfails⟩ | hreplaces
  -- The rule cannot fail, whatever its fuel, since it succeeds.
  · obtain ⟨used, state, hrun⟩ := hfails enough (Nat.le_refl _)
    cases (run_done_unique hroot hrun).1
  · exact hreplaces

/-- A fatal failure that is not the failure of the run: the grammar has one memoized rule and looks
nowhere ahead, and the run begins with an empty table and an empty context. -/
theorem fatal_stepped_over :
    markedRule.Built Parser.Offered markedRoot.parser ∧
    markedRule.Built Parser.Lookless markedRoot.parser ∧
    markedRule.DistinctKeys anyCopy markedRoot.parser ∧
    markedRoot.state.NoEntries ∧ markedRoot.ctx = ∅ ∧
    ∃ w e after s last, markedRule.Visits (Input.ofText "x") markedRoot w ∧
      markedRule.visit (Input.ofText "x") w = .done (.failure e) after ∧ e.isFatal = true ∧
      markedRule.visit (Input.ofText "x") markedRoot = .done (.success s) last := by
  obtain ⟨hvisits, ⟨after, hinner⟩, last, hroot⟩ := run_markedRule
  obtain ⟨hoffered, hlook, hlisted⟩ := built_marked
  exact ⟨hoffered, hlook, .of_listed hlisted (List.nodup_singleton _), State.noEntries_new, rfl,
    markedInner, _, after, _, last, hvisits, hinner, rfl, hroot⟩

end Grammar

end LeftRec
