import LeftRec.Proofs.Table
import LeftRec.Proofs.Usage
import LeftRec.Proofs.Visits

/-!
# Provenance — where the entries of a table come from

Where no parser is written by hand, a run changes the table in one place only: a memoized parser
stores what it keeps when its body has been run.  So a property of tables holds at every moment of
a run if it holds at its start and storing never breaks it.  In particular, whatever is in the table
at some moment was there at the start, or is the outcome of a memoized visit in the course of the
run.  This is so even if a fault stops the run.
-/

namespace LeftRec

variable {S : Signature} {T : Type → Type} {α β γ : Type}

/-! ## States that are left -/

/-- The state that is left, if any, has the property. -/
def Result.Leaves {σ α : Type} (P : σ → Prop) (r : Result σ α) : Prop :=
  ∀ state, r.state? = some state → P state

namespace Eval

variable {σ : Type} {P : σ → Prop} {state : σ}

theorem leaves_exhausted : (Result.exhausted : Result σ α).Leaves P := by
  intro after h
  cases h

theorem leaves_stopped {fault : Fault} (h : P state) :
    (Result.stopped fault state : Result σ α).Leaves P := by
  rintro after ⟨⟩
  exact h

theorem leaves_done {a : α} (h : P state) : (Result.done a state).Leaves P := by
  rintro after ⟨⟩
  exact h

/-- The rest matters only where the first part may lead. -/
theorem leaves_bind {x : Eval σ α} {f : α → Eval σ β} (hx : (x state).Leaves P)
    (hf : ∀ a middle, x state = .done a middle → (f a middle).Leaves P) :
    ((x >>= f) state).Leaves P := by
  rw [bind_apply]
  cases h : x state with
  | exhausted => exact leaves_exhausted
  | stopped fault next =>
      rw [h] at hx
      exact leaves_stopped (hx next rfl)
  | done a middle => exact hf a middle h

theorem leaves_map {f : α → β} {x : Eval σ α} (hx : (x state).Leaves P) :
    ((f <$> x) state).Leaves P := by
  rw [map_eq_pure_bind]
  exact leaves_bind hx fun a middle h => leaves_done (hx middle (by rw [h]; rfl))

theorem leaves_ofExcept {x : Except Fault α} (h : P state) :
    ((ofExcept x : Eval σ α) state).Leaves P := by
  cases x with
  | ok a => exact leaves_done h
  | error fault => exact leaves_stopped h

/-- Finishing with what the last part found leaves no other state. -/
theorem leaves_finish {x : Eval σ α} {f : α → β} (hx : (x state).Leaves P) :
    ((x >>= fun a => pure (f a)) state).Leaves P :=
  leaves_bind hx fun a middle h => leaves_done (hx middle (by rw [h]; rfl))

end Eval

/-- What is left by a computation that finished. -/
theorem Result.Leaves.of_done {σ : Type} {P : σ → Prop} {r : Result σ α} (h : r.Leaves P) {a : α}
    {state : σ} (hr : r = .done a state) : P state :=
  h state (by rw [hr]; rfl)

namespace Run

variable {p : Run S T α} {q : Run S T β} {P : State S T → Prop} {pos : Nat} {ctx : Context}
variable {state : State S T}

theorem leaves_tryMap (f : α → Except Fault β) (hp : (p pos ctx state).Leaves P) :
    (tryMap f p pos ctx state).Leaves P := by
  refine Eval.leaves_bind hp fun first middle h => ?_
  have hmiddle : P middle := hp.of_done h
  cases first with
  | failure e => exact Eval.leaves_done hmiddle
  | success s => exact Eval.leaves_map (Eval.leaves_ofExcept hmiddle)

theorem leaves_bind {f : α → Run S T β} (hp : (p pos ctx state).Leaves P)
    (hf : ∀ s middle, p pos ctx state = .done (.success s) middle →
      (f s.value s.pos (ctx.carried pos s.pos) middle).Leaves P) :
    (bind p f pos ctx state).Leaves P := by
  refine Eval.leaves_bind hp fun first middle h => ?_
  cases first with
  | failure e => exact Eval.leaves_done (hp.of_done h)
  | success s => exact Eval.leaves_finish (hf s middle h)

theorem leaves_zipWith (f : α → β → γ) (hp : (p pos ctx state).Leaves P)
    (hq : ∀ s middle, p pos ctx state = .done (.success s) middle →
      (q s.pos (ctx.carried pos s.pos) middle).Leaves P) :
    (zipWith f p q pos ctx state).Leaves P := by
  refine Eval.leaves_bind hp fun first middle h => ?_
  cases first with
  | failure e => exact Eval.leaves_done (hp.of_done h)
  | success s => exact Eval.leaves_finish (hq s middle h)

theorem leaves_alt {q : Run S T α} (hp : (p pos ctx state).Leaves P)
    (hq : ∀ e middle, p pos ctx state = .done (.failure e) middle → e.isFatal = false →
      (q pos ctx middle).Leaves P) :
    (alt p q pos ctx state).Leaves P := by
  refine Eval.leaves_bind hp fun first middle h => ?_
  cases first with
  | success s => exact Eval.leaves_done (hp.of_done h)
  | failure e =>
      cases he : e.isFatal with
      | true =>
          simp only [he, if_true]
          exact Eval.leaves_done (hp.of_done h)
      | false =>
          simp only [he, Bool.false_eq_true, if_false]
          have hsecond := hq e middle h he
          refine Eval.leaves_bind hsecond fun second after h' => ?_
          have hafter : P after := hsecond.of_done h'
          cases second with
          | success s => exact Eval.leaves_done hafter
          | failure second => exact Eval.leaves_done hafter

theorem leaves_memo [MemoTable T] {input : Input S.Token} {kind : S.Kind} {parity : Parity}
    {key : Key} {body : Run S T (S.Value kind)} (hstate : P state)
    (hnote : ∀ event, P (state.note event))
    (hbody : Missed state kind key pos ctx → ctx.depth key ≤ depthBound (input.remaining pos) →
      ctx.depth key < Context.depthLimit →
        (body pos (ctx.withDepth key (ctx.depth key + 1)) state).Leaves P)
    (hkeep : ∀ fresh middle, Missed state kind key pos ctx →
      ctx.depth key ≤ depthBound (input.remaining pos) → ctx.depth key < Context.depthLimit →
        body pos (ctx.withDepth key (ctx.depth key + 1)) state = .done fresh middle →
          P (keep input kind parity key pos ctx fresh middle).2) :
    (memo input kind parity key body pos ctx state).Leaves P := by
  rcases hit_or_missed state kind key pos ctx with ⟨o, under, hlookup, hreuse⟩ | hmissed
  · rw [memo_of_hit hlookup hreuse]
    exact Eval.leaves_done (hnote _)
  · rw [memo_of_missed hmissed]
    by_cases hdepth : depthBound (input.remaining pos) < ctx.depth key
    · rw [if_pos hdepth]
      exact Eval.leaves_done (hnote _)
    · rw [if_neg hdepth]
      have hdepth := Nat.not_lt.1 hdepth
      unfold refresh
      -- A depth that cannot be counted any more is a fault, before anything has changed.
      refine Eval.leaves_bind (Eval.leaves_ofExcept hstate) fun deeper start h => ?_
      obtain ⟨hdeeper, rfl⟩ := Eval.ofExcept_eq_done.1 h
      obtain ⟨hlimit, rfl⟩ := deepen_eq_ok.1 hdeeper
      refine Eval.leaves_bind (hbody hmissed hdepth hlimit) fun fresh middle h => ?_
      exact Eval.leaves_done (hkeep fresh middle hmissed hdepth hlimit h)

end Run

namespace Grammar

variable [MemoTable T] {G : Grammar S} {input : Input S.Token}

/-! ## Visits one inside another -/

/-- What a visit comes to. -/
def visit (G : Grammar S) (input : Input S.Token) (v : Visit S T) :
    Result (State S T) (Outcome v.α) :=
  G.run input v.fuel v.parser v.pos v.ctx v.state

variable (G input) in
/-- Induction from what a visit enters to the visit. -/
theorem visit_induction {property : Visit S T → Prop}
    (h : ∀ v, (∀ w, G.Enters input v w → property w) → property v) (v : Visit S T) :
    property v := by
  suffices hall : ∀ (fuel : Nat) {α : Type} (p : Parser S α) (pos : Nat) (ctx : Context)
      (state : State S T), property ⟨p, fuel, pos, ctx, state⟩ from
    hall v.fuel v.parser v.pos v.ctx v.state
  intro fuel
  induction fuel using Nat.strong_induction_on with
  | _ fuel ihfuel =>
    intro α p
    induction p using Parser.part_induction with
    | h p ih =>
      intro pos ctx state
      refine h _ fun w henters => ?_
      obtain ⟨part, less, pos, ctx, state⟩ := w
      rcases henters.part_or_less with ⟨hfuel, hpart⟩ | ⟨hfuel, -⟩
      · simp only at hfuel
        subst hfuel
        exact ih part hpart pos ctx state
      · exact ihfuel less hfuel part pos ctx state

/-! ## What storing keeps -/

variable (G input) in
/-- The visit of a memoized parser runs its body, comes to an outcome, and stores that. -/
inductive Stores : Visit S T → Slot → Entry S → Prop
  | memo {kind : S.Kind} {parity : Parity} {key : Key} {p : Parser S (S.Value kind)}
      {fuel pos : Nat} {ctx : Context} {state after : State S T} {o : Outcome (S.Value kind)} :
      Run.Missed state kind key pos ctx →
        ctx.depth key ≤ Run.depthBound (input.remaining pos) →
          G.run input fuel (.memo kind parity key p) pos ctx state = .done o after →
            Stores ⟨.memo kind parity key p, fuel, pos, ctx, state⟩ (key, pos)
              ⟨kind, o, ctx.pruned o.used⟩

variable {P : T (Entry S) → Prop}

section Progress

variable {fuel start : Nat} {ctx : Context} {state : State S T}

theorem RowAt.holds {parts rest : List (Parser S α)} {pos : Nat} {middle : State S T}
    (h : G.RowAt input fuel start ctx parts state rest pos middle) (hstate : P state.memo)
    (hparts : ∀ p rest pos middle,
      G.RowAt input fuel start ctx parts state (p :: rest) pos middle → P middle.memo →
        (G.run input fuel p pos (ctx.carried start pos) middle).Leaves (P ·.memo)) :
    P middle.memo := by
  induction h with
  | start => exact hstate
  | next hat hrun ih => exact (hparts _ _ _ _ hat ih).of_done hrun

theorem ManyAt.holds {p : Parser S α} {pos : Nat} {under : Context} {middle : State S T}
    (h : G.ManyAt input fuel p start ctx state pos under middle) (hstate : P state.memo)
    (hrounds : ∀ pos under middle, G.ManyAt input fuel p start ctx state pos under middle →
      P middle.memo → (G.run input fuel p pos under middle).Leaves (P ·.memo)) :
    P middle.memo := by
  induction h with
  | start => exact hstate
  | next hat hrun _ ih => exact (hrounds _ _ _ hat ih).of_done hrun

theorem leaves_rowFrom {parts rest : List (Parser S α)} {pos : Nat} {middle : State S T}
    (hat : G.RowAt input fuel start ctx parts state rest pos middle) (hmiddle : P middle.memo)
    (hparts : ∀ p rest pos middle,
      G.RowAt input fuel start ctx parts state (p :: rest) pos middle →
        (G.run input fuel p pos (ctx.carried start pos) middle).Leaves (P ·.memo))
    (used : Used) :
    (Run.rowFrom start ctx (rest.map fun p => G.run input fuel p) pos used middle).Leaves
      (P ·.memo) := by
  induction rest generalizing pos middle used with
  | nil => exact Eval.leaves_done hmiddle
  | cons p rest ih =>
      have hp := hparts p rest pos middle hat
      refine Eval.leaves_bind hp fun first after h => ?_
      cases first with
      | failure e => exact Eval.leaves_done (hp.of_done h)
      | success s => exact Eval.leaves_map (ih (hat.next h) (hp.of_done h) _)

theorem leaves_row {parts : List (Parser S α)} {pos : Nat} (hstate : P state.memo)
    (hparts : ∀ p rest at' middle,
      G.RowAt input fuel pos ctx parts state (p :: rest) at' middle →
        (G.run input fuel p at' (ctx.carried pos at') middle).Leaves (P ·.memo)) :
    (Run.row (parts.map fun p => G.run input fuel p) pos ctx state).Leaves (P ·.memo) := by
  cases parts with
  | nil => exact Eval.leaves_done hstate
  | cons p rest =>
      -- The first part gets the context of the whole, which is the one carried over nothing.
      have hp := hparts p rest pos state .start
      rw [Context.carried, if_pos rfl] at hp
      refine Eval.leaves_bind hp fun first after h => ?_
      cases first with
      | failure e => exact Eval.leaves_done (hp.of_done h)
      | success s =>
          have hfirst : G.run input fuel p pos (ctx.carried pos pos) state =
              .done (.success s) after := by
            rw [Context.carried, if_pos rfl]
            exact h
          exact Eval.leaves_map (leaves_rowFrom (.next .start hfirst) (hp.of_done h) hparts _)

theorem leaves_manyFrom {p : Parser S α} {pos : Nat} {middle : State S T}
    (hat : G.ManyAt input fuel p start ctx state pos ∅ middle)
    (hrounds : ∀ pos under middle, G.ManyAt input fuel p start ctx state pos under middle →
      (G.run input fuel p pos under middle).Leaves (P ·.memo)) (rounds : Nat) :
    (Run.manyFrom (G.run input fuel p) rounds pos middle).Leaves (P ·.memo) := by
  induction rounds generalizing pos middle with
  | zero => exact Eval.leaves_exhausted
  | succ rounds ih =>
      have hp := hrounds pos ∅ middle hat
      refine Eval.leaves_bind hp fun first after h => ?_
      cases first with
      | failure e => exact Eval.leaves_done (hp.of_done h)
      | success s =>
          by_cases hs : s.pos = pos
          · simp only [hs, if_true]
            exact Eval.leaves_done (hp.of_done h)
          · simp only [hs, if_false]
            exact Eval.leaves_map (ih (hat.next h hs))

theorem leaves_many {p : Parser S α} {pos : Nat}
    (hrounds : ∀ at' under middle, G.ManyAt input fuel p pos ctx state at' under middle →
      (G.run input fuel p at' under middle).Leaves (P ·.memo)) (rounds : Nat) :
    (Run.many rounds (G.run input fuel p) pos ctx state).Leaves (P ·.memo) := by
  have hp := hrounds pos ctx state .start
  refine Eval.leaves_bind hp fun first after h => ?_
  cases first with
  | failure e => exact Eval.leaves_done (hp.of_done h)
  | success s =>
      by_cases hs : s.pos = pos
      · simp only [hs, if_true]
        exact Eval.leaves_done (hp.of_done h)
      · simp only [hs, if_false]
        exact Eval.leaves_map (leaves_manyFrom (ManyAt.start.next h hs) hrounds rounds)

end Progress

omit [MemoTable T] in
theorem fill_memo (G : Grammar S) (rule : S.Rule) (cell : Nat) (state : State S T) :
    (G.fill rule cell state).2.memo = state.memo := by
  unfold fill
  split
  · rfl
  · split
    · rfl
    · rfl

theorem leaves_copy {rule : S.Rule} {cell fuel pos : Nat} {ctx : Context} {state : State S T}
    (hstate : P state.memo)
    (hbody : ∀ body next, G.fill rule cell state = (.ok body, next) →
      (G.run input fuel body pos ctx next).Leaves (P ·.memo)) :
    (G.call input fuel rule (some cell) pos ctx state).Leaves (P ·.memo) := by
  have hmemo := G.fill_memo rule cell state
  simp only [call]
  split
  next fault next hfill =>
    rw [hfill] at hmemo
    exact Eval.leaves_stopped (hmemo.symm ▸ hstate)
  next body next hfill => exact hbody body next hfill

/-- Where a visit begins the property holds, if it holds where the visit around it begins and all
that is run before keeps it. -/
theorem Enters.holds {v w : Visit S T} (h : G.Enters input v w) (hv : P v.state.memo)
    (hkeeps : ∀ u, G.Enters input v u → P u.state.memo → (G.visit input u).Leaves (P ·.memo)) :
    P w.state.memo := by
  cases h with
  | count | tryMap | zipWithLeft | bindFirst | altLeft | label | commit | look | memo | ref =>
      exact hv
  | zipWithRight f p q hrun => exact (hkeeps _ (.zipWithLeft f p q) hv).of_done hrun
  | bindNext p f hrun => exact (hkeeps _ (.bindFirst p f) hv).of_done hrun
  | altRight p q hrun _ => exact (hkeeps _ (.altLeft p q) hv).of_done hrun
  | row count part hat =>
      exact hat.holds hv fun p rest pos middle hat => hkeeps _ (.row count part hat)
  | many p hat => exact hat.holds hv fun pos under middle hat => hkeeps _ (.many p hat)
  | copy hfill =>
      obtain ⟨-, hmemo⟩ := fill_eq_ok hfill
      exact hmemo.symm ▸ hv

/-- If the property holds where a visit begins, what is entered keeps it and storing does, then it
holds in whatever state the visit leaves. -/
theorem leaves_visit {v : Visit S T} (hcomposed : v.parser.Composed) (hv : P v.state.memo)
    (hkeeps : ∀ u, G.Enters input v u → P u.state.memo → (G.visit input u).Leaves (P ·.memo))
    (hstores : ∀ slot entry table, G.Stores input v slot entry → P table →
      P (MemoTable.insert table slot entry)) :
    (G.visit input v).Leaves (P ·.memo) := by
  -- Whatever is entered begins where the property holds.
  have hpart : ∀ u, G.Enters input v u → (G.visit input u).Leaves (P ·.memo) :=
    fun u hu => hkeeps u hu (hu.holds hv hkeeps)
  obtain ⟨parser, fuel, pos, ctx, state⟩ := v
  cases fuel with
  | zero => exact Eval.leaves_exhausted
  | succ fuel =>
      unfold visit
      cases parser with
      | unit | fail | literal | token | find | all | eof | scan => exact Eval.leaves_done hv
      | custom f => exact hcomposed.elim
      | count what p =>
          exact hpart ⟨p, fuel + 1, pos, ctx, state.count what⟩ (.count what p)
      | tryMap f p =>
          rw [run_tryMap]
          exact Run.leaves_tryMap f (hpart _ (.tryMap f p))
      | zipWith f p q =>
          rw [run_zipWith]
          exact Run.leaves_zipWith f (hpart _ (.zipWithLeft f p q)) fun s middle h =>
            hpart _ (.zipWithRight f p q h)
      | bind p f =>
          rw [run_bind]
          exact Run.leaves_bind (hpart _ (.bindFirst p f)) fun s middle h =>
            hpart _ (.bindNext p f h)
      | alt p q =>
          rw [run_alt]
          exact Run.leaves_alt (hpart _ (.altLeft p q)) fun e middle h he =>
            hpart _ (.altRight p q h he)
      | label name p =>
          rw [run_label]
          exact Eval.leaves_finish (hpart _ (.label name p))
      | commit p =>
          rw [run_commit]
          exact Eval.leaves_finish (hpart _ (.commit p))
      | look p =>
          rw [run_look]
          exact Eval.leaves_finish (hpart _ (.look p))
      | row count part =>
          rw [run_row]
          exact leaves_row hv fun p rest at' middle hat => hpart _ (.row count part hat)
      | many p =>
          rw [run_many]
          exact leaves_many (fun at' under middle hat => hpart _ (.many p hat)) fuel
      | memo kind parity key p =>
          rw [run_memo]
          refine Run.leaves_memo hv (fun _ => hv) (fun hmissed hdepth hlimit =>
            hpart _ (.memo parity key p hmissed hdepth hlimit))
            fun fresh middle hmissed hdepth hlimit hbody => ?_
          have hdone := Run.memo_of_body parity hmissed hdepth hlimit hbody
          have hmiddle := (hpart _ (.memo parity key p hmissed hdepth hlimit)).of_done hbody
          rw [Run.keep_snd_memo]
          exact hstores _ _ _ (.memo hmissed hdepth hdone) hmiddle
      | ref rule =>
          rw [run_ref]
          cases hdefine : G.define rule with
          | none =>
              simp only [call, hdefine]
              exact Eval.leaves_stopped hv
          | some body =>
              rw [call_rule hdefine]
              exact hpart _ (.ref hdefine)
      | delay cell rule =>
          rw [run_delay]
          exact leaves_copy hv fun body next hfill => hpart _ (.copy hfill)

/-- What holds where a run begins and is kept by storing holds at every moment of the run: where
each visit begins, and in whatever state it leaves. -/
theorem Visits.holds {root : Visit S T}
    (hcomposed : G.Built Parser.Composed root.parser) (hroot : P root.state.memo)
    (hstores : ∀ v slot entry table, G.Visits input root v → G.Stores input v slot entry →
      P table → P (MemoTable.insert table slot entry)) {w : Visit S T}
    (h : G.Visits input root w) : P w.state.memo ∧ (G.visit input w).Leaves (P ·.memo) := by
  have hkeeps : ∀ v, G.Visits input root v → P v.state.memo →
      (G.visit input v).Leaves (P ·.memo) := by
    refine visit_induction G input fun v ih hvisits hv => ?_
    exact leaves_visit (hcomposed.of_uses hvisits.uses).holds hv
      (fun u henters hu => ih u henters (hvisits.tail henters) hu)
      fun slot entry table => hstores v slot entry table hvisits
  suffices hbegin : P w.state.memo from ⟨hbegin, hkeeps w h hbegin⟩
  induction h with
  | refl => exact hroot
  | tail hvisits henters ih =>
      exact henters.holds ih fun u hu => hkeeps u (hvisits.tail hu)

/-! ## Where entries come from -/

/-- At some moment of a run the state is this one: a visit begins with it or leaves it. -/
def Passes (G : Grammar S) (input : Input S.Token) (root : Visit S T) (state : State S T) : Prop :=
  ∃ w, G.Visits input root w ∧ (state = w.state ∨ (G.visit input w).state? = some state)

theorem Passes.holds {root : Visit S T} {state : State S T} (h : G.Passes input root state)
    (hcomposed : G.Built Parser.Composed root.parser)
    (hroot : P root.state.memo)
    (hstores : ∀ v slot entry table, G.Visits input root v → G.Stores input v slot entry →
      P table → P (MemoTable.insert table slot entry)) : P state.memo := by
  obtain ⟨w, hvisits, rfl | hleft⟩ := h
  · exact (hvisits.holds hcomposed hroot hstores).1
  · exact (hvisits.holds hcomposed hroot hstores).2 state hleft

/-- What is in the table at some moment of a run was there at its start, or was stored by a visit in
its course. -/
theorem Passes.provenance [LawfulMemoTable T] {root : Visit S T} {state : State S T}
    (h : G.Passes input root state) (hcomposed : G.Built Parser.Composed root.parser)
    {slot : Slot} {entry : Entry S} (hget : MemoTable.get? state.memo slot = some entry) :
    MemoTable.get? root.state.memo slot = some entry ∨
      ∃ v, G.Visits input root v ∧ G.Stores input v slot entry := by
  refine h.holds (P := fun table => ∀ slot entry, MemoTable.get? table slot = some entry →
    MemoTable.get? root.state.memo slot = some entry ∨
      ∃ v, G.Visits input root v ∧ G.Stores input v slot entry) hcomposed (fun _ _ => .inl) ?_ slot
    entry hget
  intro v stored kept table hvisits hstores htable other found hfound
  rw [LawfulMemoTable.get?_insert] at hfound
  split at hfound
  next hsame =>
    obtain rfl := hsame
    obtain rfl := Option.some.inj hfound
    exact .inr ⟨v, hvisits, hstores⟩
  next => exact htable other found hfound

end Grammar

end LeftRec
