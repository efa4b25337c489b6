import Mathlib.Logic.Basic
import LeftRec.Memoize

/-!
# Finished runs — what a run that came to an outcome is made of

For every combinator, a run that finished is taken apart into the finished runs of its parts.  Each
statement is an equivalence, so it also says how finished parts make up a finished whole.  Later
modules cite these and do not open the combinators again.
-/

namespace LeftRec

/-! ## Results -/

/-- The result is a value that the check accepts, with its state. -/
def Result.finishedWith {σ α : Type} (check : α → σ → Bool) : Result σ α → Bool
  | .done a state => check a state
  | _ => false

theorem Result.exists_of_finishedWith {σ α : Type} {check : α → σ → Bool} {r : Result σ α}
    (h : r.finishedWith check = true) : ∃ a state, r = .done a state ∧ check a state = true := by
  cases r with
  | exhausted => cases h
  | stopped fault state => cases h
  | done a state => exact ⟨a, state, rfl, h⟩

/-- A result that is checked to be a given value is that value with some state. -/
theorem Result.exists_of_finished {σ α : Type} [DecidableEq α] {expected : α} {r : Result σ α}
    (h : r.finishedWith (fun a _ => decide (a = expected)) = true) :
    ∃ state, r = .done expected state := by
  obtain ⟨a, state, hr, ha⟩ := exists_of_finishedWith h
  obtain rfl := of_decide_eq_true ha
  exact ⟨state, hr⟩

/-! ## Computations -/

namespace Eval

variable {σ α β γ : Type} {state after : σ}

@[simp]
theorem pure_eq_done {a b : α} :
    (pure a : Eval σ α) state = .done b after ↔ b = a ∧ after = state := by
  rw [pure_apply, Result.done.injEq]
  exact and_congr eq_comm eq_comm

theorem bind_eq_done {x : Eval σ α} {f : α → Eval σ β} {b : β} :
    (x >>= f) state = .done b after ↔
      ∃ a middle, x state = .done a middle ∧ f a middle = .done b after := by
  rw [bind_apply]
  cases h : x state with
  | exhausted => simp
  | stopped fault next => simp
  | done a next =>
      constructor
      · intro hf
        exact ⟨a, next, rfl, hf⟩
      · rintro ⟨_, _, ⟨⟩, hf⟩
        exact hf

theorem map_eq_done {f : α → β} {x : Eval σ α} {b : β} :
    (f <$> x) state = .done b after ↔ ∃ a, x state = .done a after ∧ b = f a := by
  rw [map_apply]
  cases h : x state with
  | exhausted => simp
  | stopped fault next => simp
  | done a next =>
      constructor
      · rintro ⟨⟩
        exact ⟨a, rfl, rfl⟩
      · rintro ⟨_, ⟨⟩, rfl⟩
        rfl

theorem ofExcept_eq_done {x : Except Fault α} {a : α} :
    ofExcept x state = .done a after ↔ x = .ok a ∧ after = state := by
  cases x with
  | error fault => simp [ofExcept]
  | ok b =>
      show (pure b : Eval σ α) state = .done a after ↔ _
      rw [pure_eq_done, Except.ok.injEq, eq_comm]

/-- Going on by whether an outcome is a failure or a success. -/
theorem outcome_eq_done {x : Eval σ (Outcome α)} {onFailure : Failure → Eval σ β}
    {onSuccess : Success α → Eval σ β} {b : β} :
    (x >>= fun
        | .failure e => onFailure e
        | .success s => onSuccess s) state = .done b after ↔
      (∃ e middle, x state = .done (.failure e) middle ∧ onFailure e middle = .done b after) ∨
      (∃ s middle, x state = .done (.success s) middle ∧ onSuccess s middle = .done b after) := by
  rw [bind_eq_done]
  constructor
  · rintro ⟨o, middle, hx, hnext⟩
    cases o with
    | failure e => exact .inl ⟨e, middle, hx, hnext⟩
    | success s => exact .inr ⟨s, middle, hx, hnext⟩
  · rintro (⟨e, middle, hx, hnext⟩ | ⟨s, middle, hx, hnext⟩)
    · exact ⟨_, middle, hx, hnext⟩
    · exact ⟨_, middle, hx, hnext⟩

/-- Failing as the first part did, or going on from its success. -/
theorem success_eq_done {x : Eval σ (Outcome α)} {onSuccess : Success α → Eval σ (Outcome β)}
    {o : Outcome β} :
    (x >>= fun
        | .failure e => pure (.failure e)
        | .success s => onSuccess s) state = .done o after ↔
      (∃ e, x state = .done (.failure e) after ∧ o = .failure e) ∨
      (∃ s middle, x state = .done (.success s) middle ∧ onSuccess s middle = .done o after) := by
  refine outcome_eq_done.trans (or_congr ?_ Iff.rfl)
  constructor
  · rintro ⟨e, middle, hx, hpure⟩
    obtain ⟨rfl, rfl⟩ := pure_eq_done.1 hpure
    exact ⟨e, hx, rfl⟩
  · rintro ⟨e, hx, rfl⟩
    exact ⟨e, after, hx, rfl⟩

/-- One round of a repetition: it fails, or stands still, or moves on and leaves the rest. -/
theorem round_eq_done {x : Eval σ (Outcome α)} {pos : Nat} {onFailure : Failure → β}
    {onHalt : Success α → β} {rest : Success α → Eval σ γ} {join : Success α → γ → β} {b : β} :
    (x >>= fun
        | .failure e => pure (onFailure e)
        | .success s => if s.pos = pos then pure (onHalt s) else join s <$> rest s) state =
        .done b after ↔
      (∃ e, x state = .done (.failure e) after ∧ b = onFailure e) ∨
      (∃ s, x state = .done (.success s) after ∧ s.pos = pos ∧ b = onHalt s) ∨
      (∃ s middle, x state = .done (.success s) middle ∧ s.pos ≠ pos ∧
        ∃ others, rest s middle = .done others after ∧ b = join s others) := by
  refine outcome_eq_done.trans (or_congr ?_ ?_)
  · simp only [pure_eq_done]
    constructor
    · rintro ⟨e, _, hx, rfl, rfl⟩
      exact ⟨e, hx, rfl⟩
    · rintro ⟨e, hx, rfl⟩
      exact ⟨e, after, hx, rfl, rfl⟩
  · constructor
    · rintro ⟨s, middle, hx, hnext⟩
      by_cases hs : s.pos = pos
      · rw [if_pos hs] at hnext
        obtain ⟨rfl, rfl⟩ := pure_eq_done.1 hnext
        exact .inl ⟨s, hx, hs, rfl⟩
      · rw [if_neg hs] at hnext
        exact .inr ⟨s, middle, hx, hs, map_eq_done.1 hnext⟩
    · rintro (⟨s, hx, hs, rfl⟩ | ⟨s, middle, hx, hs, hrest⟩)
      · exact ⟨s, after, hx, by rw [if_pos hs, pure_apply]⟩
      · exact ⟨s, middle, hx, by rw [if_neg hs]; exact map_eq_done.2 hrest⟩

/-- Finishing with a function of what the last part found. -/
theorem finish_eq_done {x : Eval σ α} {f : α → β} {b : β} :
    (x >>= fun a => pure (f a)) state = .done b after ↔
      ∃ a, x state = .done a after ∧ b = f a := by
  rw [bind_pure_comp, map_eq_done]

end Eval

namespace Run

variable {S : Signature} {T : Type → Type} {α β γ : Type}
variable {pos : Nat} {ctx : Context} {state after : State S T}

/-! ## Sequences -/

theorem tryMap_eq_done {f : α → Except Fault β} {p : Run S T α} {o : Outcome β} :
    tryMap f p pos ctx state = .done o after ↔
      (∃ e, p pos ctx state = .done (.failure e) after ∧ o = .failure e) ∨
      (∃ s value, p pos ctx state = .done (.success s) after ∧ f s.value = .ok value ∧
        o = .success { s with value }) := by
  refine Eval.success_eq_done.trans (or_congr Iff.rfl ?_)
  simp only [Eval.map_eq_done, Eval.ofExcept_eq_done]
  constructor
  · rintro ⟨s, middle, hp, value, ⟨hf, rfl⟩, rfl⟩
    exact ⟨s, value, hp, hf, rfl⟩
  · rintro ⟨s, value, hp, hf, rfl⟩
    exact ⟨s, after, hp, value, ⟨hf, rfl⟩, rfl⟩

theorem bind_eq_done {p : Run S T α} {f : α → Run S T β} {o : Outcome β} :
    bind p f pos ctx state = .done o after ↔
      (∃ e, p pos ctx state = .done (.failure e) after ∧ o = .failure e) ∨
      (∃ s middle, p pos ctx state = .done (.success s) middle ∧
        ∃ second, f s.value s.pos (ctx.carried pos s.pos) middle = .done second after ∧
          o = second.after pos s.used) := by
  refine Eval.success_eq_done.trans (or_congr Iff.rfl ?_)
  simp only [Eval.finish_eq_done]

theorem zipWith_eq_done {f : α → β → γ} {p : Run S T α} {q : Run S T β} {o : Outcome γ} :
    zipWith f p q pos ctx state = .done o after ↔
      (∃ e, p pos ctx state = .done (.failure e) after ∧ o = .failure e) ∨
      (∃ s middle, p pos ctx state = .done (.success s) middle ∧
        ∃ second, q s.pos (ctx.carried pos s.pos) middle = .done second after ∧
          o = (second.map (f s.value)).after pos s.used) := by
  refine Eval.success_eq_done.trans (or_congr Iff.rfl ?_)
  simp only [Eval.finish_eq_done]

theorem rowFrom_cons_eq_done {start : Nat} {used : Used} {p : Run S T α}
    {rest : List (Run S T α)} {o : Outcome (List α)} :
    rowFrom start ctx (p :: rest) pos used state = .done o after ↔
      (∃ e, p pos (ctx.carried start pos) state = .done (.failure e) after ∧
        o = (Outcome.failure e).after start used) ∨
      (∃ s middle, p pos (ctx.carried start pos) state = .done (.success s) middle ∧
        ∃ others, rowFrom start ctx rest s.pos (Used.sequenced start s.pos used s.used) middle =
            .done others after ∧
          o = others.map (s.value :: ·)) := by
  simp only [rowFrom]
  rw [Eval.bind_eq_done]
  constructor
  · rintro ⟨first, middle, hp, hnext⟩
    cases first with
    | failure e =>
        obtain ⟨rfl, rfl⟩ := Eval.pure_eq_done.1 hnext
        exact .inl ⟨e, hp, rfl⟩
    | success s => exact .inr ⟨s, middle, hp, Eval.map_eq_done.1 hnext⟩
  · rintro (⟨e, hp, rfl⟩ | ⟨s, middle, hp, hrest⟩)
    · exact ⟨_, after, hp, rfl⟩
    · exact ⟨_, middle, hp, Eval.map_eq_done.2 hrest⟩

theorem row_cons_eq_done {p : Run S T α} {rest : List (Run S T α)} {o : Outcome (List α)} :
    row (p :: rest) pos ctx state = .done o after ↔
      (∃ e, p pos ctx state = .done (.failure e) after ∧ o = .failure e) ∨
      (∃ s middle, p pos ctx state = .done (.success s) middle ∧
        ∃ others, rowFrom pos ctx rest s.pos s.used middle = .done others after ∧
          o = others.map (s.value :: ·)) := by
  refine Eval.success_eq_done.trans (or_congr Iff.rfl ?_)
  simp only [Eval.map_eq_done]

/-! ## Choice -/

theorem alt_eq_done {p q : Run S T α} {o : Outcome α} :
    alt p q pos ctx state = .done o after ↔
      (∃ s, p pos ctx state = .done (.success s) after ∧ o = .success s) ∨
      (∃ e, p pos ctx state = .done (.failure e) after ∧ e.isFatal = true ∧ o = .failure e) ∨
      (∃ e middle, p pos ctx state = .done (.failure e) middle ∧ e.isFatal = false ∧
        ((∃ s, q pos ctx middle = .done (.success s) after ∧
            o = .success { s with used := e.used.union s.used }) ∨
          (∃ second, q pos ctx middle = .done (.failure second) after ∧
            o = .failure (e.merge second)))) := by
  unfold alt
  rw [Eval.bind_eq_done]
  constructor
  · rintro ⟨first, middle, hp, hnext⟩
    cases first with
    | success s =>
        obtain ⟨rfl, rfl⟩ := Eval.pure_eq_done.1 hnext
        exact .inl ⟨s, hp, rfl⟩
    | failure e =>
        cases he : e.isFatal with
        | true =>
            simp only [he, if_true] at hnext
            obtain ⟨rfl, rfl⟩ := Eval.pure_eq_done.1 hnext
            exact .inr (.inl ⟨e, hp, he, rfl⟩)
        | false =>
            simp only [he, Bool.false_eq_true, if_false] at hnext
            refine .inr (.inr ⟨e, middle, hp, he, ?_⟩)
            obtain ⟨second, next, hq, hlast⟩ := Eval.bind_eq_done.1 hnext
            cases second with
            | success s =>
                obtain ⟨rfl, rfl⟩ := Eval.pure_eq_done.1 hlast
                exact .inl ⟨s, hq, rfl⟩
            | failure second =>
                obtain ⟨rfl, rfl⟩ := Eval.pure_eq_done.1 hlast
                exact .inr ⟨second, hq, rfl⟩
  · rintro (⟨s, hp, rfl⟩ | ⟨e, hp, he, rfl⟩ | ⟨e, middle, hp, he, hq⟩)
    · exact ⟨_, after, hp, rfl⟩
    · refine ⟨_, after, hp, ?_⟩
      simp only [he, if_true, Eval.pure_apply]
    · refine ⟨_, middle, hp, ?_⟩
      simp only [he, Bool.false_eq_true, if_false]
      rcases hq with ⟨s, hq, rfl⟩ | ⟨second, hq, rfl⟩
      · exact Eval.bind_eq_done.2 ⟨_, after, hq, rfl⟩
      · exact Eval.bind_eq_done.2 ⟨_, after, hq, rfl⟩

/-- How a label renames a failure. -/
def relabel (name : String) (pos : Nat) (e : Failure) : Failure :=
  if e.isFatal || e.pos ≠ pos then e else { e with reason := .expecting name }

theorem label_eq_done {name : String} {p : Run S T α} {o : Outcome α} :
    label name p pos ctx state = .done o after ↔
      ∃ first, p pos ctx state = .done first after ∧ o = first.mapFailure (relabel name pos) :=
  Eval.finish_eq_done

theorem commit_eq_done {p : Run S T α} {o : Outcome α} :
    commit p pos ctx state = .done o after ↔
      ∃ first, p pos ctx state = .done first after ∧
        o = first.mapFailure fun e => { e with reason := e.reason.toFatal } :=
  Eval.finish_eq_done

theorem look_eq_done {p : Run S T α} {o : Outcome Bool} :
    look p pos ctx state = .done o after ↔
      ∃ first, p pos ctx state = .done first after ∧
        o = .success { value := first.isSuccess, pos, used := first.used } :=
  Eval.finish_eq_done

/-! ## Repetition -/

theorem manyFrom_succ_eq_done {rounds : Nat} {p : Run S T α} {o : Outcome (List α)} :
    manyFrom p (rounds + 1) pos state = .done o after ↔
      (∃ e, p pos ∅ state = .done (.failure e) after ∧
        o = if e.isFatal then .failure e else .yield [] pos) ∨
      (∃ s, p pos ∅ state = .done (.success s) after ∧ s.pos = pos ∧ o = .yield [s.value] pos) ∨
      (∃ s middle, p pos ∅ state = .done (.success s) middle ∧ s.pos ≠ pos ∧
        ∃ others, manyFrom p rounds s.pos middle = .done others after ∧
          o = others.map (s.value :: ·)) :=
  Eval.round_eq_done

theorem many_eq_done {rounds : Nat} {p : Run S T α} {o : Outcome (List α)} :
    many rounds p pos ctx state = .done o after ↔
      (∃ e, p pos ctx state = .done (.failure e) after ∧
        o = if e.isFatal then .failure e else .success { value := [], pos, used := e.used }) ∨
      (∃ s, p pos ctx state = .done (.success s) after ∧ s.pos = pos ∧
        o = .success { value := [s.value], pos, used := s.used }) ∨
      (∃ s middle, p pos ctx state = .done (.success s) middle ∧ s.pos ≠ pos ∧
        ∃ others, manyFrom p rounds s.pos middle = .done others after ∧
          o = (others.map (s.value :: ·)).withUsed s.used) :=
  Eval.round_eq_done

/-! ## Shapes -/

/-- The whole runs one part, and finishes with an outcome that is related to the part's. -/
def Wraps (finish : Nat → Outcome α → Outcome β → Prop) (part : Run S T α) (whole : Run S T β) :
    Prop :=
  ∀ ⦃pos ctx state o after⦄, whole pos ctx state = .done o after ↔
    ∃ first, part pos ctx state = .done first after ∧ finish pos first o

/-- The whole runs a first part and then the one that its value gives, and joins what they found. -/
def Chains (join : Success α → Outcome β → Outcome γ) (first : Run S T α) (next : α → Run S T β)
    (whole : Run S T γ) : Prop :=
  ∀ ⦃pos ctx state o after⦄, whole pos ctx state = .done o after ↔
    (∃ e, first pos ctx state = .done (.failure e) after ∧ o = .failure e) ∨
    (∃ s middle, first pos ctx state = .done (.success s) middle ∧
      ∃ second, next s.value s.pos (ctx.carried pos s.pos) middle = .done second after ∧
        o = (join s second).after pos s.used)

/-- How a value is transformed, if that is no fault. -/
def Transformed (f : α → Except Fault β) (first : Outcome α) (o : Outcome β) : Prop :=
  (∃ e, first = .failure e ∧ o = .failure e) ∨
    ∃ s value, first = .success s ∧ f s.value = .ok value ∧ o = .success { s with value }

theorem wraps_tryMap (f : α → Except Fault β) (p : Run S T α) :
    Wraps (fun _ => Transformed f) p (tryMap f p) := by
  intro pos ctx state o after
  rw [tryMap_eq_done]
  constructor
  · rintro (⟨e, hfirst, rfl⟩ | ⟨s, value, hfirst, hf, rfl⟩)
    · exact ⟨.failure e, hfirst, .inl ⟨e, rfl, rfl⟩⟩
    · exact ⟨.success s, hfirst, .inr ⟨s, value, rfl, hf, rfl⟩⟩
  · rintro ⟨_, hfirst, ⟨e, rfl, rfl⟩ | ⟨s, value, rfl, hf, rfl⟩⟩
    · exact .inl ⟨e, hfirst, rfl⟩
    · exact .inr ⟨s, value, hfirst, hf, rfl⟩

theorem wraps_label (name : String) (p : Run S T α) :
    Wraps (fun pos first o => o = first.mapFailure (relabel name pos)) p (label name p) :=
  fun _ _ _ _ _ => label_eq_done

theorem wraps_commit (p : Run S T α) :
    Wraps (fun _ first o => o = first.mapFailure fun e => { e with reason := e.reason.toFatal }) p
      (commit p) :=
  fun _ _ _ _ _ => commit_eq_done

theorem wraps_look (p : Run S T α) :
    Wraps (fun pos first o => o = .success { value := first.isSuccess, pos, used := first.used }) p
      (look p) :=
  fun _ _ _ _ _ => look_eq_done

theorem chains_bind (p : Run S T α) (f : α → Run S T β) : Chains (fun _ o => o) p f (bind p f) :=
  fun _ _ _ _ _ => bind_eq_done

theorem chains_zipWith (f : α → β → γ) (p : Run S T α) (q : Run S T β) :
    Chains (fun s o => o.map (f s.value)) p (fun _ => q) (zipWith f p q) :=
  fun _ _ _ _ _ => zipWith_eq_done

/-! ## Memoization -/

section Memo

variable [MemoTable T] {input : Input S.Token} {kind : S.Kind} {parity : Parity} {key : Key}
variable {body : Run S T (S.Value kind)} {o : Outcome (S.Value kind)}

/-- No stored outcome may be reused here. -/
def Missed (state : State S T) (kind : S.Kind) (key : Key) (pos : Nat) (ctx : Context) : Prop :=
  ∀ o under, state.lookup kind key pos = some (o, under) → ctx.canReuse under = false

/-- What a rule keeps of a fresh outcome that its body left `middle` with. -/
def keep (input : Input S.Token) (kind : S.Kind) (parity : Parity) (key : Key) (pos : Nat)
    (ctx : Context) (fresh : Outcome (S.Value kind)) (middle : State S T) :
    Outcome (S.Value kind) × State S T :=
  let (kept, event) := settle key pos fresh
    (preferred parity (input.remaining pos) ctx fresh (middle.lookup kind key pos))
  (kept, (event.elim middle middle.note).store key pos
    { kind, outcome := kept, context := ctx.pruned kept.used })

theorem deepen_eq_ok {ctx deeper : Context} {key : Key} :
    deepen ctx key = .ok deeper ↔
      ctx.depth key + 1 ≤ Context.depthLimit ∧
        deeper = ctx.withDepth key (ctx.depth key + 1) := by
  by_cases h : ctx.depth key + 1 ≤ Context.depthLimit
  · simp [deepen, h, eq_comm]
  · simp [deepen, h]

theorem refresh_eq_done :
    refresh input kind parity key body pos ctx state = .done o after ↔
      ctx.depth key + 1 ≤ Context.depthLimit ∧
      ∃ fresh middle,
        body pos (ctx.withDepth key (ctx.depth key + 1)) state = .done fresh middle ∧
        (o, after) = keep input kind parity key pos ctx fresh middle := by
  unfold refresh
  simp only [Eval.bind_eq_done, Eval.ofExcept_eq_done, deepen_eq_ok]
  constructor
  · rintro ⟨deeper, _, ⟨⟨hlimit, rfl⟩, rfl⟩, fresh, middle, hbody, stored, next, hread, hlast⟩
    obtain ⟨rfl, rfl⟩ := Result.done.inj hread
    obtain ⟨_, _, hevent, _, _, hstore, hkept⟩ := hlast
    obtain ⟨-, rfl⟩ := Result.done.inj hevent
    obtain ⟨-, rfl⟩ := Result.done.inj hstore
    obtain ⟨rfl, rfl⟩ := Eval.pure_eq_done.1 hkept
    exact ⟨hlimit, fresh, middle, hbody, rfl⟩
  · rintro ⟨hlimit, fresh, middle, hbody, hkeep⟩
    obtain ⟨rfl, rfl⟩ := Prod.mk.inj hkeep
    exact ⟨_, state, ⟨⟨hlimit, rfl⟩, rfl⟩, fresh, middle, hbody, _, middle, rfl,
      (), _, rfl, (), _, rfl, rfl⟩

theorem memo_of_hit {under : Context} (hlookup : state.lookup kind key pos = some (o, under))
    (hreuse : ctx.canReuse under = true) :
    memo input kind parity key body pos ctx state = .done o (state.note (.hit key pos)) := by
  unfold memo
  rw [Eval.bind_apply, Eval.read_apply]
  simp only [hlookup, Option.filter_some, hreuse, if_true]
  rfl

theorem memo_of_missed (hmissed : Missed state kind key pos ctx) :
    memo input kind parity key body pos ctx state =
      if depthBound (input.remaining pos) < ctx.depth key then
        .done (.failure { reason := .curtailment, pos, used := .single key })
          (state.note (.curtailed key pos (ctx.depth key)))
      else refresh input kind parity key body pos ctx state := by
  unfold memo
  rw [Eval.bind_apply, Eval.read_apply]
  cases hlookup : state.lookup kind key pos with
  | none =>
      simp only [Option.filter_none]
      split
      · rfl
      · rfl
  | some found =>
      have hreuse := hmissed found.1 found.2 hlookup
      simp only [Option.filter_some, hreuse, Bool.false_eq_true, if_false]
      split
      · rfl
      · rfl

theorem hit_or_missed (state : State S T) (kind : S.Kind) (key : Key) (pos : Nat)
    (ctx : Context) :
    (∃ o under, state.lookup kind key pos = some (o, under) ∧ ctx.canReuse under = true) ∨
      Missed state kind key pos ctx := by
  by_cases h : Missed state kind key pos ctx
  · exact .inr h
  · simp only [Missed, not_forall, Bool.not_eq_false] at h
    obtain ⟨o, under, hlookup, hreuse⟩ := h
    exact .inl ⟨o, under, hlookup, hreuse⟩

/-- The three exits of a memoized rule: the table, the bound, and the body. -/
theorem memo_eq_done :
    memo input kind parity key body pos ctx state = .done o after ↔
      (∃ under, state.lookup kind key pos = some (o, under) ∧ ctx.canReuse under = true ∧
        after = state.note (.hit key pos)) ∨
      (Missed state kind key pos ctx ∧ depthBound (input.remaining pos) < ctx.depth key ∧
        o = .failure { reason := .curtailment, pos, used := .single key } ∧
        after = state.note (.curtailed key pos (ctx.depth key))) ∨
      (Missed state kind key pos ctx ∧ ctx.depth key ≤ depthBound (input.remaining pos) ∧
        refresh input kind parity key body pos ctx state = .done o after) := by
  constructor
  · intro h
    rcases hit_or_missed state kind key pos ctx with ⟨stored, under, hlookup, hreuse⟩ | hmissed
    · rw [memo_of_hit hlookup hreuse] at h
      obtain ⟨rfl, rfl⟩ := Result.done.inj h
      exact .inl ⟨under, hlookup, hreuse, rfl⟩
    · rw [memo_of_missed hmissed] at h
      by_cases hdepth : depthBound (input.remaining pos) < ctx.depth key
      · rw [if_pos hdepth] at h
        obtain ⟨rfl, rfl⟩ := Result.done.inj h
        exact .inr (.inl ⟨hmissed, hdepth, rfl, rfl⟩)
      · rw [if_neg hdepth] at h
        exact .inr (.inr ⟨hmissed, Nat.not_lt.1 hdepth, h⟩)
  · rintro (⟨under, hlookup, hreuse, rfl⟩ | ⟨hmissed, hdepth, rfl, rfl⟩ |
      ⟨hmissed, hdepth, hrefresh⟩)
    · exact memo_of_hit hlookup hreuse
    · rw [memo_of_missed hmissed, if_pos hdepth]
    · rw [memo_of_missed hmissed, if_neg (Nat.not_lt.2 hdepth)]
      exact hrefresh

variable (parity) in
/-- A rule that is not in the table and may be entered keeps what its body comes to. -/
theorem memo_of_body {fresh : Outcome (S.Value kind)} {middle : State S T}
    (hmissed : Missed state kind key pos ctx)
    (hdepth : ctx.depth key ≤ depthBound (input.remaining pos))
    (hlimit : ctx.depth key < Context.depthLimit)
    (hbody : body pos (ctx.withDepth key (ctx.depth key + 1)) state = .done fresh middle) :
    memo input kind parity key body pos ctx state =
      .done (keep input kind parity key pos ctx fresh middle).1
        (keep input kind parity key pos ctx fresh middle).2 :=
  memo_eq_done.2 (.inr (.inr ⟨hmissed, hdepth,
    refresh_eq_done.2 ⟨hlimit, fresh, middle, hbody, rfl⟩⟩))

end Memo

end Run
end LeftRec
