import LeftRec.Proofs.Onward

/-!
# Plain parsers — what does not depend on a context

A parser that neither memoizes nor refers to rules comes to one verdict at a position, an outcome or
a fault.  The context, the state, the way of calling rules and the fuel make no difference, once the
fuel exceeds the tokens that remain, and no curtailment contributes to the outcome.
-/

namespace LeftRec

universe u

/-! ## Computations with one verdict -/

/-- All computations of a family come to one verdict, a good value or a fault, and leave the state
as it is. -/
def Eval.Constant {ι : Type u} {σ α : Type} (good : α → Prop) (x : ι → Eval σ α) : Prop :=
  ∃ a : Except Fault α, (∀ v, a = .ok v → good v) ∧ ∀ i, x i = ofExcept a

namespace Eval

variable {ι : Type u} {σ α β : Type} {good : α → Prop} {good' : β → Prop} {x : ι → Eval σ α}

theorem constant_pure {a : α} (h : good a) : Constant good fun _ : ι => (pure a : Eval σ α) := by
  refine ⟨.ok a, ?_, fun _ => rfl⟩
  rintro _ ⟨⟩
  exact h

theorem constant_ofExcept {a : Except Fault α} (h : ∀ v, a = .ok v → good v) :
    Constant good fun _ : ι => (ofExcept a : Eval σ α) :=
  ⟨a, h, fun _ => rfl⟩

theorem Constant.bind {f : ι → α → Eval σ β} (hx : Constant good x)
    (hf : ∀ a, good a → Constant good' fun i => f i a) :
    Constant good' fun i => x i >>= f i := by
  obtain ⟨a, ha, hconst⟩ := hx
  cases a with
  | error fault =>
      refine ⟨.error fault, ?_, fun i => ?_⟩
      · rintro _ ⟨⟩
      · show x i >>= f i = _
        rw [hconst i]
        rfl
  | ok a =>
      obtain ⟨b, hb, hnext⟩ := hf a (ha a rfl)
      refine ⟨b, hb, fun i => ?_⟩
      show x i >>= f i = _
      rw [hconst i]
      exact hnext i

theorem Constant.map {f : α → β} (hx : Constant good x) (hf : ∀ a, good a → good' (f a)) :
    Constant good' fun i => f <$> x i := by
  simp only [map_eq_pure_bind]
  exact hx.bind fun a ha => constant_pure (hf a ha)

theorem Constant.congr {y : ι → Eval σ α} (hy : Constant good y) (h : ∀ i, x i = y i) :
    Constant good x := by
  obtain ⟨a, ha, hconst⟩ := hy
  exact ⟨a, ha, fun i => (h i).trans (hconst i)⟩

end Eval

/-! ## Clean outcomes -/

variable {S : Signature} {T : Type → Type} {α β γ : Type}

@[simp]
theorem Used.sequenced_empty (start stop : Nat) : Used.sequenced start stop ∅ ∅ = ∅ := by
  unfold Used.sequenced
  split
  · rfl
  · rfl

/-- The outcome depends on no curtailment and goes on from `pos`. -/
structure Outcome.Clean {τ : Type} (input : Input τ) (pos : Nat) (o : Outcome α) : Prop where
  used_eq : o.used = ∅
  onward : o.Onward input pos

namespace Outcome.Clean

variable {τ : Type} {input : Input τ} {pos : Nat} {o : Outcome α}

theorem here (hused : o.used = ∅) (hpos : o.pos = pos) : o.Clean input pos :=
  ⟨hused, .here input hpos⟩

theorem congr {first : Outcome β} (h : first.Clean input pos) (hused : o.used = first.used)
    (hpos : o.pos = first.pos) : o.Clean input pos :=
  ⟨hused.trans h.used_eq, h.onward.congr hpos⟩

/-- What follows a clean success, as seen from where that began. -/
theorem second {s : Success β} (hs : (Outcome.success s).Clean input pos)
    (ho : o.Clean input s.pos) : o.Clean input pos :=
  ⟨ho.used_eq, hs.onward.trans ho.onward⟩

theorem map (h : o.Clean input pos) (f : α → β) : (o.map f).Clean input pos := by
  cases o with
  | success s => exact h.congr rfl rfl
  | failure e => exact h.congr rfl rfl

theorem after (h : o.Clean input pos) (start : Nat) : (o.after start ∅).Clean input pos := by
  refine h.congr ?_ (o.pos_after _ _)
  have hused := h.used_eq
  cases o with
  | success s =>
      simp only [Outcome.used] at hused
      simp [Outcome.after, Outcome.withUsed, Outcome.used, hused]
  | failure e =>
      simp only [Outcome.used] at hused
      simp [Outcome.after, Outcome.withUsed, Outcome.used, hused]

theorem withUsed (h : o.Clean input pos) : (o.withUsed ∅).Clean input pos := by
  refine ⟨?_, h.onward.congr (o.pos_withUsed _)⟩
  cases o with
  | success s => rfl
  | failure e => rfl

theorem mapFailure {f : Failure → Failure} (h : o.Clean input pos)
    (hf : ∀ e, (f e).pos = e.pos ∧ (f e).used = e.used) : (o.mapFailure f).Clean input pos := by
  cases o with
  | success s => exact h
  | failure e => exact h.congr (hf e).2 (hf e).1

end Outcome.Clean

@[simp]
theorem Failure.used_merge (first second : Failure) :
    (first.merge second).used = first.used.union second.used := by
  simp only [Failure.merge]
  repeat' split
  all_goals rfl

/-! ## Runs -/

namespace Run

variable {ι : Type u} {input : Input S.Token} {rounds : ι → Nat}

/-- From every boundary with fewer tokens left than rounds, the runs of a family come to one clean
verdict. -/
def Settled (input : Input S.Token) (rounds : ι → Nat) (p : ι → Run S T α) : Prop :=
  ∀ ⦃pos⦄ (ctx : ι → Context), input.Boundary pos → (∀ i, input.remaining pos < rounds i) →
    Eval.Constant (Outcome.Clean input pos) fun i => p i pos (ctx i)

theorem settled_pure [MemoTable T] [LawfulMemoTable T] {f : Nat → Outcome α}
    (hgoes : Along (T := T) (.reading input) fun pos _ => pure (f pos))
    (hused : ∀ pos, (f pos).used = ∅) :
    Settled (T := T) input rounds fun _ pos _ => pure (f pos) := by
  intro pos ctx hpos _
  -- A terminal sees neither context nor state, so any state will do, and a new one is onward.
  obtain ⟨honward, -⟩ := @hgoes pos ∅ .new _ _ hpos State.noEntries_new.onward rfl
  exact Eval.constant_pure ⟨hused pos, honward⟩

theorem used_found (name : String) (pos : Nat) (what : Option (α × Nat)) :
    (found name pos what).used = ∅ := by
  cases what with
  | none => rfl
  | some pair => rfl

variable {p : ι → Run S T α} {q : ι → Run S T β}

/-! ### Sequences -/

theorem Settled.tryMap (f : α → Except Fault β) (hp : Settled input rounds p) :
    Settled input rounds fun i => Run.tryMap f (p i) := by
  intro pos ctx hpos hrounds
  refine (hp ctx hpos hrounds).bind fun first hfirst => ?_
  cases first with
  | failure e => exact Eval.constant_pure (hfirst.congr rfl rfl)
  | success s =>
      have hvalue : Eval.Constant (fun _ => True) fun _ : ι =>
          (Eval.ofExcept (f s.value) : Eval (State S T) β) :=
        Eval.constant_ofExcept fun _ _ => trivial
      exact hvalue.map fun _ _ => hfirst.congr rfl rfl

/-- What follows a clean success comes to one verdict as well. -/
theorem Settled.second (hq : Settled input rounds q) {pos : Nat} (hpos : input.Boundary pos)
    (hrounds : ∀ i, input.remaining pos < rounds i) {s : Success α}
    (hs : (Outcome.success s).Clean input pos) (ctx : ι → Context) :
    Eval.Constant (Outcome.Clean input s.pos) fun i => q i s.pos (ctx i) := by
  obtain ⟨word, hword⟩ := hs.onward
  exact hq ctx (hword.boundary hpos) fun i => lt_of_le_of_lt hword.remaining_le (hrounds i)

theorem Settled.bind {f : ι → α → Run S T β} (hp : Settled input rounds p)
    (hf : ∀ a, Settled input rounds fun i => f i a) :
    Settled input rounds fun i => Run.bind (p i) (f i) := by
  intro pos ctx hpos hrounds
  refine (hp ctx hpos hrounds).bind fun first hfirst => ?_
  cases first with
  | failure e => exact Eval.constant_pure (hfirst.congr rfl rfl)
  | success s =>
      refine ((hf s.value).second hpos hrounds hfirst _).bind fun second hsecond => ?_
      have hused : s.used = ∅ := hfirst.used_eq
      rw [hused]
      exact Eval.constant_pure ((hfirst.second hsecond).after pos)

theorem Settled.zipWith (f : α → β → γ) (hp : Settled input rounds p)
    (hq : Settled input rounds q) : Settled input rounds fun i => Run.zipWith f (p i) (q i) := by
  intro pos ctx hpos hrounds
  refine (hp ctx hpos hrounds).bind fun first hfirst => ?_
  cases first with
  | failure e => exact Eval.constant_pure (hfirst.congr rfl rfl)
  | success s =>
      refine (hq.second hpos hrounds hfirst _).bind fun second hsecond => ?_
      have hused : s.used = ∅ := hfirst.used_eq
      rw [hused]
      exact Eval.constant_pure (((hfirst.second hsecond).map _).after pos)

theorem settled_rowFrom {κ : Type 1} {part : κ → ι → Run S T α} {parts : List κ}
    (hparts : ∀ k ∈ parts, Settled input rounds (part k)) (start : Nat) (ctx : ι → Context)
    {pos : Nat} (hpos : input.Boundary pos) (hrounds : ∀ i, input.remaining pos < rounds i) :
    Eval.Constant (Outcome.Clean input pos) fun i =>
      rowFrom start (ctx i) (parts.map fun k => part k i) pos ∅ := by
  induction parts generalizing pos with
  | nil => exact Eval.constant_pure (.here rfl rfl)
  | cons k rest ih =>
      refine (hparts k List.mem_cons_self _ hpos hrounds).bind fun first hfirst => ?_
      cases first with
      | failure e => exact Eval.constant_pure ((hfirst.after start).congr rfl rfl)
      | success s =>
          obtain ⟨word, hword⟩ := hfirst.onward
          have hrest := ih (fun j hj => hparts j (List.mem_cons_of_mem _ hj))
            (hword.boundary hpos) fun i => lt_of_le_of_lt hword.remaining_le (hrounds i)
          have hused : Used.sequenced start s.pos ∅ s.used = ∅ := by
            rw [show s.used = ∅ from hfirst.used_eq, Used.sequenced_empty]
          have hafter : (Outcome.success s).after start ∅ = .success { s with used := ∅ } := by
            simp only [Outcome.after, Outcome.withUsed, Outcome.used, Outcome.pos, hused]
          rw [hafter]
          exact hrest.map fun others hothers => (hfirst.second hothers).map _

theorem settled_row {κ : Type 1} {part : κ → ι → Run S T α} {parts : List κ}
    (hparts : ∀ k ∈ parts, Settled input rounds (part k)) :
    Settled input rounds fun i => row (parts.map fun k => part k i) := by
  intro pos ctx hpos hrounds
  cases parts with
  | nil => exact Eval.constant_pure (.here rfl rfl)
  | cons k rest =>
      refine (hparts k List.mem_cons_self ctx hpos hrounds).bind fun first hfirst => ?_
      cases first with
      | failure e => exact Eval.constant_pure (hfirst.congr rfl rfl)
      | success s =>
          obtain ⟨word, hword⟩ := hfirst.onward
          have hrest := settled_rowFrom (fun j hj => hparts j (List.mem_cons_of_mem _ hj)) pos ctx
            (hword.boundary hpos) fun i => lt_of_le_of_lt hword.remaining_le (hrounds i)
          rw [← show s.used = ∅ from hfirst.used_eq] at hrest
          exact hrest.map fun others hothers => (hfirst.second hothers).map _

/-! ### Choice -/

theorem Settled.alt {q : ι → Run S T α} (hp : Settled input rounds p)
    (hq : Settled input rounds q) : Settled input rounds fun i => Run.alt (p i) (q i) := by
  intro pos ctx hpos hrounds
  refine (hp ctx hpos hrounds).bind fun first hfirst => ?_
  cases first with
  | success s => exact Eval.constant_pure hfirst
  | failure e =>
      have hused : e.used = ∅ := hfirst.used_eq
      cases he : e.isFatal with
      | true =>
          simp only [he, if_true]
          exact Eval.constant_pure hfirst
      | false =>
          simp only [he, Bool.false_eq_true, if_false]
          refine (hq ctx hpos hrounds).bind fun second hsecond => ?_
          -- Neither branch used anything, so nothing is left of either in the union.
          have hunion : e.used.union second.used = ∅ := by
            rw [hused, hsecond.used_eq]
            rfl
          cases second with
          | success s =>
              have hused := hunion.trans hsecond.used_eq.symm
              exact Eval.constant_pure (hsecond.congr hused rfl)
          | failure second =>
              refine Eval.constant_pure ⟨(Failure.used_merge e second).trans hunion, ?_⟩
              rcases e.pos_merge second with hmerge | hmerge
              · exact hfirst.onward.congr hmerge
              · exact hsecond.onward.congr hmerge

theorem used_relabel (name : String) (pos : Nat) (e : Failure) :
    (relabel name pos e).used = e.used := by
  unfold relabel
  split
  · rfl
  · rfl

theorem Settled.label (name : String) (hp : Settled input rounds p) :
    Settled input rounds fun i => Run.label name (p i) := by
  intro pos ctx hpos hrounds
  refine (hp ctx hpos hrounds).bind fun first hfirst => Eval.constant_pure ?_
  have hsame (e : Failure) :
      (relabel name pos e).pos = e.pos ∧ (relabel name pos e).used = e.used :=
    ⟨pos_relabel name pos e, used_relabel name pos e⟩
  exact hfirst.mapFailure hsame

theorem Settled.commit (hp : Settled input rounds p) :
    Settled input rounds fun i => Run.commit (p i) :=
  fun _ ctx hpos hrounds => (hp ctx hpos hrounds).bind fun _ hfirst =>
    Eval.constant_pure (hfirst.mapFailure fun _ => ⟨rfl, rfl⟩)

theorem Settled.look (hp : Settled input rounds p) :
    Settled input rounds fun i => Run.look (p i) :=
  fun _ ctx hpos hrounds => (hp ctx hpos hrounds).bind fun _ hfirst =>
    Eval.constant_pure (.here hfirst.used_eq rfl)

/-! ### Repetition -/

/-- The rounds that are left exceed the tokens that are left. -/
theorem settled_manyFrom (hp : Settled input rounds p) {pos : Nat} (hpos : input.Boundary pos)
    (hrounds : ∀ i, input.remaining pos < rounds i) (left : ι → Nat)
    (hleft : ∀ i, input.remaining pos < left i) :
    Eval.Constant (Outcome.Clean input pos) fun i => manyFrom (p i) (left i) pos := by
  induction hremaining : input.remaining pos using Nat.strong_induction_on
    generalizing pos left with
  | h remaining ih =>
      -- There is a round left wherever tokens are, so the repetition unfolds once for all indices.
      have hround : ∀ i, manyFrom (p i) (left i) pos = manyFrom (p i) (left i - 1 + 1) pos := by
        intro i
        have := hleft i
        rw [show left i - 1 + 1 = left i by omega]
      refine Eval.Constant.congr ?_ hround
      refine (hp (fun _ => ∅) hpos hrounds).bind fun first hfirst => ?_
      cases first with
      | failure e =>
          cases he : e.isFatal with
          | true =>
              simp only [he, if_true]
              exact Eval.constant_pure (hfirst.congr rfl rfl)
          | false =>
              simp only [he, Bool.false_eq_true, if_false]
              exact Eval.constant_pure (.here rfl rfl)
      | success s =>
          by_cases hs : s.pos = pos
          · simp only [hs, if_true]
            exact Eval.constant_pure (.here rfl rfl)
          · simp only [hs, if_false]
            obtain ⟨word, hword⟩ := hfirst.onward
            -- The round consumed something, so fewer tokens are left and the induction applies.
            have hless := hword.remaining_lt hs
            have hrest := ih _ (hremaining ▸ hless) (hword.boundary hpos)
              (fun i => lt_trans hless (hrounds i)) (fun i => left i - 1)
              (fun i => by have := hleft i; omega) rfl
            exact hrest.map fun others hothers => (hfirst.second hothers).map _

theorem Settled.many (hp : Settled input rounds p) :
    Settled input rounds fun i => Run.many (rounds i) (p i) := by
  intro pos ctx hpos hrounds
  refine (hp ctx hpos hrounds).bind fun first hfirst => ?_
  cases first with
  | failure e =>
      cases he : e.isFatal with
      | true =>
          simp only [he, if_true]
          exact Eval.constant_pure (hfirst.congr rfl rfl)
      | false =>
          simp only [he, Bool.false_eq_true, if_false]
          exact Eval.constant_pure (.here hfirst.used_eq rfl)
  | success s =>
      by_cases hs : s.pos = pos
      · simp only [hs, if_true]
        exact Eval.constant_pure (.here hfirst.used_eq rfl)
      · simp only [hs, if_false]
        obtain ⟨word, hword⟩ := hfirst.onward
        have hless := hword.remaining_lt hs
        have hrest := settled_manyFrom hp (hword.boundary hpos)
          (fun i => lt_trans hless (hrounds i)) rounds fun i => lt_trans hless (hrounds i)
        rw [show s.used = ∅ from hfirst.used_eq]
        exact hrest.map fun others hothers => ((hfirst.second hothers).map _).withUsed

end Run

/-! ## Parsers -/

variable [MemoTable T] [LawfulMemoTable T] {input : Input S.Token} {ι : Type u}

/-- A plain parser comes to one clean verdict at a position, whatever else it is given. -/
theorem Parser.settled_eval {p : Parser S α} (hp : p.All Plain) (rounds : ι → Nat)
    (call : ι → Caller S T) :
    Run.Settled input rounds fun i => p.eval input (rounds i) (call i) := by
  induction p with
  | unit | fail => exact Run.settled_pure (Run.along_pure fun _ _ => .here _ rfl) fun _ => rfl
  | literal tokens name =>
      exact Run.settled_pure (Run.along_literal tokens name) fun _ => Run.used_found _ _ _
  | token test name =>
      exact Run.settled_pure (Run.along_token test name) fun _ => Run.used_found _ _ _
  | find test name =>
      exact Run.settled_pure (Run.along_find test name) fun _ => Run.used_found _ _ _
  | all => exact Run.settled_pure Run.along_all fun _ => rfl
  | eof => exact Run.settled_pure Run.along_eof fun _ => Run.used_found _ _ _
  | scan f name => exact Run.settled_pure (Run.along_scan f name) fun _ => Run.used_found _ _ _
  | custom | count | memo | ref | delay => exact hp.holds.elim
  | tryMap f p ih => exact (ih (hp.part (.tryMap f p))).tryMap f
  | zipWith f p q ihp ihq =>
      exact (ihp (hp.part (.zipWithLeft f p q))).zipWith f (ihq (hp.part (.zipWithRight f p q)))
  | bind p f ihp ihf =>
      exact (ihp (hp.part (.bindFirst p f))).bind fun a => ihf a (hp.part (.bindNext p f a))
  | alt p q ihp ihq => exact (ihp (hp.part (.altLeft p q))).alt (ihq (hp.part (.altRight p q)))
  | label name p ih => exact (ih (hp.part (.label name p))).label name
  | commit p ih => exact (ih (hp.part (.commit p))).commit
  | look p ih => exact (ih (hp.part (.look p))).look
  | row count part ih =>
      simp only [Parser.eval_row]
      exact Run.settled_row
        (List.forall_mem_ofFn_iff.2 fun i => ih i (hp.part (.row count part i)))
  | many p ih => exact (ih (hp.part (.many p))).many

end LeftRec
