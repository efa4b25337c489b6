import LeftRec.Proofs.Comparison

/-!
# Tracking — combinators on memoized and erased runs

For each combinator, a comparison of the whole gives comparisons of the parts that are run, and
where the memoized parts finish as the erased ones do, so does the whole.
-/

namespace LeftRec
namespace Comparison

variable {S : Signature} {T : Type → Type} [MemoTable T] {α β γ : Type}
variable {C : Comparison S T} {p : Parser S α} {q : Parser S β}

/-! ## One part -/

/-- A parser with one part, which begins where the whole does. -/
structure Single (C : Comparison S T) (finish : Nat → Outcome α → Outcome β → Prop)
    (p : Parser S α) (whole : Parser S β) : Prop where
  part : p.Part whole
  plain : ∀ n, Run.Wraps finish (C.plain n p) (C.plain n whole)
  run : ∀ n, Run.Wraps finish (C.grammar.run C.input n p : Run S T α)
    (C.grammar.run C.input n whole)

section Single

variable {fuel pos : Nat} {ctx : Context} {state bare after : State S T} {o : Outcome β}
variable {finish : Nat → Outcome α → Outcome β → Prop}

theorem Shadows.single (hpart : C.Single finish p q)
    (h : C.Shadows fuel q pos ctx state bare o after) :
    ∃ first, C.Shadows fuel p pos ctx state bare first after ∧ finish pos first o := by
  obtain ⟨first, hfirst, hfinish⟩ := (hpart.plain fuel).1 h.plain
  refine ⟨first, h.first hpart.part hfirst h.within ?_, hfinish⟩
  -- A whole that finishes has a part that finishes, with the same fuel.
  rintro n ⟨o', after', hwhole⟩
  obtain ⟨first', hfirst', -⟩ := (hpart.plain n).1 hwhole
  exact ⟨first', after', hfirst'⟩

theorem Tracked.single (hpart : C.Single finish p q) (hp : C.Tracked fuel p) :
    C.Tracked fuel q := by
  intro pos ctx state bare o after h
  obtain ⟨first, hfirst, hfinish⟩ := h.single hpart
  obtain ⟨next, hrun, hnext⟩ := hp hfirst
  exact ⟨next, (hpart.run fuel).2 ⟨first, hrun, hfinish⟩, hnext⟩

theorem single_tryMap (f : α → Except Fault β) (p : Parser S α) :
    C.Single (fun _ => Run.Transformed f) p (.tryMap f p) where
  part := .tryMap f p
  plain n := by
    simp only [plain, Parser.erase, Grammar.run_tryMap]
    exact Run.wraps_tryMap f _
  run n := by
    rw [Grammar.run_tryMap]
    exact Run.wraps_tryMap f _

theorem single_label (name : String) (p : Parser S α) :
    C.Single (fun pos first o => o = first.mapFailure (Run.relabel name pos)) p
      (.label name p) where
  part := .label name p
  plain n := by
    simp only [plain, Parser.erase, Grammar.run_label]
    exact Run.wraps_label name _
  run n := by
    rw [Grammar.run_label]
    exact Run.wraps_label name _

theorem single_commit (p : Parser S α) :
    C.Single (fun _ first o => o = first.mapFailure fun e => { e with reason := e.reason.toFatal })
      p (.commit p) where
  part := .commit p
  plain n := by
    simp only [plain, Parser.erase, Grammar.run_commit]
    exact Run.wraps_commit _
  run n := by
    rw [Grammar.run_commit]
    exact Run.wraps_commit _

theorem single_look (p : Parser S α) :
    C.Single (fun pos first o => o = .success { value := first.isSuccess, pos, used := first.used })
      p (.look p) where
  part := .look p
  plain n := by
    simp only [plain, Parser.erase, Grammar.run_look]
    exact Run.wraps_look _
  run n := by
    rw [Grammar.run_look]
    exact Run.wraps_look _

end Single

/-! ## Two parts -/

/-- A parser that runs one part after another. -/
structure Chain (C : Comparison S T) (join : Success α → Outcome β → Outcome γ)
    (p : Parser S α) (q : α → Parser S β) (whole : Parser S γ) : Prop where
  first : p.Part whole
  next : ∀ a, (q a).Part whole
  plain : ∀ n, Run.Chains join (C.plain n p) (fun a => C.plain n (q a)) (C.plain n whole)
  run : ∀ n, Run.Chains join (C.grammar.run C.input n p : Run S T α)
    (fun a => C.grammar.run C.input n (q a)) (C.grammar.run C.input n whole)

section Chain

variable {fuel pos : Nat} {ctx : Context} {state bare after : State S T} {o : Outcome γ}
variable {join : Success α → Outcome β → Outcome γ} {r : α → Parser S β} {whole : Parser S γ}

theorem Shadows.chain (hchain : C.Chain join p r whole)
    (h : C.Shadows fuel whole pos ctx state bare o after) :
    ∃ first middle, C.Shadows fuel p pos ctx state bare first middle ∧
      ((∃ e, first = .failure e ∧ middle = after ∧ o = .failure e) ∨
        ∃ s second, first = .success s ∧ o = (join s second).after pos s.used ∧
          ∀ next, C.Mirrors next middle →
            C.Shadows fuel (r s.value) s.pos (ctx.carried pos s.pos) next middle second after) := by
  have hanswers : ∀ n, C.Answers n whole pos → C.Answers n p pos := by
    rintro n ⟨o', after', hwhole⟩
    rcases (hchain.plain n).1 hwhole with ⟨e, hfirst, -⟩ | ⟨s, middle, hfirst, -⟩
    · exact ⟨_, after', hfirst⟩
    · exact ⟨_, middle, hfirst⟩
  rcases (hchain.plain fuel).1 h.plain with
    ⟨e, hfirst, rfl⟩ | ⟨s, middle, hfirst, second, hsecond, rfl⟩
  · exact ⟨_, after, h.first hchain.first hfirst h.within hanswers, .inl ⟨e, rfl, rfl, rfl⟩⟩
  · rw [Context.carried_empty] at hsecond
    have hmiddle : middle.Within C.final :=
      (within_of_plain (h.uses.part (hchain.next s.value)) hsecond).trans h.within
    have hshadow := h.first hchain.first hfirst hmiddle hanswers
    refine ⟨_, middle, hshadow, .inr ⟨s, second, rfl, rfl, fun next hnext => ?_⟩⟩
    refine h.next (hchain.next s.value) hnext hsecond h.within ?_
    -- However much fuel the whole has, its first part finds the same and leaves the cells alone.
    rintro n ⟨o', after', hwhole⟩
    rcases (hchain.plain n).1 hwhole with ⟨e, hagain, -⟩ | ⟨s', middle', hagain, second', hlast, -⟩
    · obtain ⟨⟨⟩, -⟩ := plain_unique hshadow.again hagain
    · obtain ⟨⟨⟩, rfl⟩ := plain_unique hshadow.again hagain
      rw [Context.carried_empty] at hlast
      exact ⟨second', after', hlast⟩

theorem Tracked.chain (hchain : C.Chain join p r whole) (hp : C.Tracked fuel p)
    (hr : ∀ a, C.Tracked fuel (r a)) : C.Tracked fuel whole := by
  intro pos ctx state bare o after h
  obtain ⟨first, middle, hfirst, ⟨e, rfl, rfl, rfl⟩ | ⟨s, second, rfl, rfl, hsecond⟩⟩ :=
    h.chain hchain
  · obtain ⟨next, hrun, hnext⟩ := hp hfirst
    exact ⟨next, (hchain.run fuel).2 (.inl ⟨e, hrun, rfl⟩), hnext⟩
  · obtain ⟨next, hrun, hnext⟩ := hp hfirst
    obtain ⟨last, hlast, hmirrors⟩ := hr s.value (hsecond next hnext)
    exact ⟨last, (hchain.run fuel).2 (.inr ⟨s, next, hrun, second, hlast, rfl⟩), hmirrors⟩

theorem chain_zipWith (f : α → β → γ) (p : Parser S α) (q : Parser S β) :
    C.Chain (fun s o => o.map (f s.value)) p (fun _ => q) (.zipWith f p q) where
  first := .zipWithLeft f p q
  next _ := .zipWithRight f p q
  plain n := by
    simp only [plain, Parser.erase, Grammar.run_zipWith]
    exact Run.chains_zipWith f _ _
  run n := by
    rw [Grammar.run_zipWith]
    exact Run.chains_zipWith f _ _

theorem chain_bind (p : Parser S α) (f : α → Parser S β) :
    C.Chain (fun _ o => o) p f (.bind p f) where
  first := .bindFirst p f
  next := .bindNext p f
  plain n := by
    simp only [plain, Parser.erase, Grammar.run_bind]
    exact Run.chains_bind _ _
  run n := by
    rw [Grammar.run_bind]
    exact Run.chains_bind _ _

end Chain

/-! ## Choice -/

section Choice

variable {fuel pos : Nat} {ctx : Context} {state bare after : State S T} {o : Outcome α}

theorem Shadows.alt {q : Parser S α} (h : C.Shadows fuel (.alt p q) pos ctx state bare o after) :
    ∃ first middle, C.Shadows fuel p pos ctx state bare first middle ∧
      ((∃ s, first = .success s ∧ middle = after ∧ o = .success s) ∨
        (∃ e, first = .failure e ∧ e.isFatal = true ∧ middle = after ∧ o = .failure e) ∨
        ∃ e second, first = .failure e ∧ e.isFatal = false ∧
          ((∃ s, second = .success s ∧ o = .success { s with used := e.used.union s.used }) ∨
            ∃ e', second = .failure e' ∧ o = .failure (e.merge e')) ∧
          ∀ next, C.Mirrors next middle → C.Shadows fuel q pos ctx next middle second after) := by
  have hplain (n : Nat) : C.plain n (.alt p q) = Run.alt (C.plain n p) (C.plain n q) :=
    Grammar.run_alt q.erase
  have hleft : p.Part (.alt p q) := .altLeft p q
  have hright : q.Part (.alt p q) := .altRight p q
  have hanswers : ∀ n, C.Answers n (.alt p q) pos → C.Answers n p pos := by
    rintro n ⟨o', after', hwhole⟩
    rw [hplain] at hwhole
    rcases Run.alt_eq_done.1 hwhole with ⟨s, hp, -⟩ | ⟨e, hp, -⟩ | ⟨e, middle, hp, -⟩
    · exact ⟨_, after', hp⟩
    · exact ⟨_, after', hp⟩
    · exact ⟨_, middle, hp⟩
  have hwhole := h.plain
  rw [hplain] at hwhole
  rcases Run.alt_eq_done.1 hwhole with
    ⟨s, hfirst, rfl⟩ | ⟨e, hfirst, he, rfl⟩ | ⟨e, middle, hfirst, he, hsecond⟩
  · exact ⟨_, after, h.first hleft hfirst h.within hanswers, .inl ⟨s, rfl, rfl, rfl⟩⟩
  · refine ⟨_, after, h.first hleft hfirst h.within hanswers, .inr (.inl ?_)⟩
    exact ⟨e, rfl, he, rfl, rfl⟩
  -- Both ways to end with the second branch have a run of that branch in common.
  · obtain ⟨second, hq, ho⟩ : ∃ second, C.plain fuel q pos ∅ middle = .done second after ∧
        ((∃ s, second = .success s ∧ o = .success { s with used := e.used.union s.used }) ∨
          ∃ e', second = .failure e' ∧ o = .failure (e.merge e')) := by
      rcases hsecond with ⟨s, hq, rfl⟩ | ⟨e', hq, rfl⟩
      · exact ⟨_, hq, .inl ⟨s, rfl, rfl⟩⟩
      · exact ⟨_, hq, .inr ⟨e', rfl, rfl⟩⟩
    have hmiddle : middle.Within C.final :=
      (within_of_plain (h.uses.part hright) hq).trans h.within
    have hshadow := h.first hleft hfirst hmiddle hanswers
    refine ⟨_, middle, hshadow, .inr (.inr ⟨e, second, rfl, he, ho, fun next hnext => ?_⟩)⟩
    -- With any fuel that is enough, the first branch fails as it did here, and the second is taken.
    have hright' : ∀ n, C.Answers n (.alt p q) pos → C.Answers n q pos := by
      rintro n ⟨o', after', hagain⟩
      rw [hplain] at hagain
      rcases Run.alt_eq_done.1 hagain with
        ⟨s, hp, -⟩ | ⟨e', hp, he', -⟩ | ⟨e', middle', hp, -, hlast⟩
      · obtain ⟨⟨⟩, -⟩ := plain_unique hshadow.again hp
      · obtain ⟨⟨⟩, -⟩ := plain_unique hshadow.again hp
        rw [he] at he'
        cases he'
      · obtain ⟨⟨⟩, rfl⟩ := plain_unique hshadow.again hp
        rcases hlast with ⟨s, hlast, -⟩ | ⟨e', hlast, -⟩
        · exact ⟨_, after', hlast⟩
        · exact ⟨_, after', hlast⟩
    have hshadow' := h.next hright hnext hq h.within hright'
    rwa [Context.carried_self] at hshadow'

theorem Tracked.alt {q : Parser S α} (hp : C.Tracked fuel p) (hq : C.Tracked fuel q) :
    C.Tracked fuel (.alt p q) := by
  intro pos ctx state bare o after h
  simp only [Tracks, Grammar.run_alt]
  obtain ⟨first, middle, hfirst, hcases⟩ := h.alt
  obtain ⟨next, hrun, hnext⟩ := hp hfirst
  rcases hcases with ⟨s, rfl, rfl, rfl⟩ | ⟨e, rfl, he, rfl, rfl⟩ | ⟨e, second, rfl, he, ho, hq'⟩
  · exact ⟨next, Run.alt_eq_done.2 (.inl ⟨s, hrun, rfl⟩), hnext⟩
  · exact ⟨next, Run.alt_eq_done.2 (.inr (.inl ⟨e, hrun, he, rfl⟩)), hnext⟩
  · obtain ⟨last, hlast, hmirrors⟩ := hq (hq' next hnext)
    refine ⟨last, Run.alt_eq_done.2 (.inr (.inr ⟨e, next, hrun, he, ?_⟩)), hmirrors⟩
    rcases ho with ⟨s, rfl, rfl⟩ | ⟨e', rfl, rfl⟩
    · exact .inl ⟨s, hlast, rfl⟩
    · exact .inr ⟨e', hlast, rfl⟩

end Choice

/-! ## Rows -/

section Row

variable {fuel start pos : Nat} {ctx : Context} {state bare after : State S T}
variable {whole : Parser S (List α)} {rest : List (Parser S α)} {o : Outcome (List α)}

/-- What is left of an erased row that began at `start` and ends with `after`.  It would have been
left as well with any other fuel that is enough for the row. -/
structure RowLeft (C : Comparison S T) (fuel start : Nat) (whole : Parser S (List α))
    (rest : List (Parser S α)) (pos : Nat) (bare : State S T) (o : Outcome (List α))
    (after : State S T) : Prop where
  parts : ∀ p ∈ rest, p.Part whole
  plain : Run.rowFrom start ∅ (rest.map (C.plain fuel)) pos ∅ bare = .done o after
  answers : ∀ n, C.Answers n whole start → ∃ o' after',
    Run.rowFrom start ∅ (rest.map (C.plain n)) pos ∅ C.final = .done o' after'

theorem plain_row (count : Nat) (part : Fin count → Parser S α) :
    C.plain (fuel + 1) (.row count part) =
      Run.row ((List.ofFn part).map (C.plain (fuel + 1))) := by
  simp only [plain, Parser.erase, Grammar.run_row, List.map_ofFn]
  rfl

/-- The first part of what is left, and what is left after that. -/
theorem RowLeft.step {bare₀ : State S T} {o₀ : Outcome (List α)}
    (h : C.Shadows fuel whole start ctx state bare₀ o₀ after)
    (hrow : C.RowLeft fuel start whole (p :: rest) pos bare o after) :
    ∃ first middle,
      (∀ next, C.Mirrors next bare →
        C.Shadows fuel p pos (ctx.carried start pos) next bare first middle) ∧
      ((∃ e, first = .failure e ∧ middle = after ∧ o = .failure e) ∨
        ∃ s others, first = .success s ∧ o = others.map (s.value :: ·) ∧
          C.RowLeft fuel start whole rest s.pos middle others after) := by
  have hpart : p.Part whole := hrow.parts p List.mem_cons_self
  have huses : C.Uses p := h.uses.part hpart
  have hanswers : ∀ n, C.Answers n whole start → C.Answers n p pos := by
    intro n hwhole
    obtain ⟨o', after', hagain⟩ := hrow.answers n hwhole
    rcases Run.rowFrom_cons_eq_done.1 hagain with ⟨e, hp, -⟩ | ⟨s, middle, hp, -⟩
    · rw [Context.carried_empty] at hp
      exact ⟨_, after', hp⟩
    · rw [Context.carried_empty] at hp
      exact ⟨_, middle, hp⟩
  rcases Run.rowFrom_cons_eq_done.1 hrow.plain with
    ⟨e, hfirst, rfl⟩ | ⟨s, middle, hfirst, others, hrest, rfl⟩
  · rw [Context.carried_empty] at hfirst
    have hused : e.used = ∅ := used_of_plain huses hfirst
    refine ⟨_, after, fun next hnext => h.next hpart hnext hfirst h.within hanswers, .inl ?_⟩
    exact ⟨e, rfl, rfl, Outcome.after_eq_self (o := .failure e) hused start⟩
  · rw [Context.carried_empty] at hfirst
    have hused : s.used = ∅ := used_of_plain huses hfirst
    -- The row has used nothing so far, and goes on from the empty set.
    have hsequenced : Used.sequenced start s.pos ∅ s.used = ∅ := by
      rw [hused, Used.sequenced_empty]
    rw [hsequenced] at hrest
    have hparts : ∀ q ∈ rest, q.Part whole := fun q hq => hrow.parts q (List.mem_cons_of_mem _ hq)
    have hstable : ∀ r ∈ rest.map (C.plain fuel), r.Stable :=
      List.forall_mem_map.2 fun q hq => stable_plain (h.uses.part (hparts q hq)) fuel
    have hmiddle : middle.Within C.final := (Run.stable_rowFrom hstable hrest).1.trans h.within
    have hfinal := plain_again huses hfirst hmiddle
    have hleft : C.RowLeft fuel start whole rest s.pos middle others after := by
      refine ⟨hparts, hrest, fun n hwhole => ?_⟩
      obtain ⟨o', after', hagain⟩ := hrow.answers n hwhole
      rcases Run.rowFrom_cons_eq_done.1 hagain with
        ⟨e, hp, -⟩ | ⟨s', middle', hp, others', hlast, -⟩
      · rw [Context.carried_empty] at hp
        obtain ⟨⟨⟩, -⟩ := plain_unique hfinal hp
      · rw [Context.carried_empty] at hp
        obtain ⟨⟨⟩, rfl⟩ := plain_unique hfinal hp
        rw [hsequenced] at hlast
        exact ⟨others', after', hlast⟩
    refine ⟨_, middle, fun next hnext => h.next hpart hnext hfirst hmiddle hanswers, .inr ?_⟩
    exact ⟨s, others, rfl, rfl, hleft⟩

theorem Shadows.row {count : Nat} {part : Fin count → Parser S α}
    (h : C.Shadows fuel (.row count part) pos ctx state bare o after) :
    C.RowLeft fuel pos (.row count part) (List.ofFn part) pos bare o after := by
  have hparts : ∀ p ∈ List.ofFn part, p.Part (.row count part) :=
    List.forall_mem_ofFn_iff.2 fun i => .row count part i
  -- The first part of an erased row uses nothing, whatever state it is run from.
  have hused (n : Nat) (from' : State S T) : ∀ r ∈ ((List.ofFn part).map (C.plain n)).head?,
      ∀ first next, r pos ∅ from' = .done first next → first.used = ∅ := by
    intro r hr first next hrun
    obtain ⟨p, hp, rfl⟩ := List.mem_map.1 (List.mem_of_head? hr)
    exact used_of_plain (h.uses.part (hparts p hp)) hrun
  refine ⟨hparts, ?_, fun n hwhole => ?_⟩
  · cases fuel with
    | zero => cases h.plain
    | succ fuel =>
        have hrun := h.plain
        rw [plain_row] at hrun
        exact (Run.row_eq_done (hused _ _)).1 hrun
  · obtain ⟨o', after', hwhole⟩ := hwhole
    cases n with
    | zero => cases hwhole
    | succ n =>
        rw [plain_row] at hwhole
        exact ⟨o', after', (Run.row_eq_done (hused _ _)).1 hwhole⟩

theorem RowLeft.tracks {state₀ bare₀ : State S T} {o₀ : Outcome (List α)}
    (h : C.Shadows fuel whole start ctx state₀ bare₀ o₀ after)
    (htracked : ∀ p ∈ rest, C.Tracked fuel p)
    (hrow : C.RowLeft fuel start whole rest pos bare o after) (hmirrors : C.Mirrors state bare) :
    ∃ next, Run.rowFrom start ctx (rest.map (C.grammar.run C.input fuel)) pos ∅ state =
      .done o next ∧ C.Mirrors next after := by
  induction rest generalizing pos state bare o with
  | nil =>
      obtain ⟨rfl, rfl⟩ := Eval.pure_eq_done.1 hrow.plain
      exact ⟨state, rfl, hmirrors⟩
  | cons p rest ih =>
      obtain ⟨first, middle, hfirst, hcases⟩ := hrow.step h
      have hshadow := hfirst state hmirrors
      obtain ⟨next, hrun, hnext⟩ := htracked p List.mem_cons_self hshadow
      have hused := used_of_plain hshadow.uses hshadow.plain
      rcases hcases with ⟨e, rfl, rfl, rfl⟩ | ⟨s, others, rfl, rfl, hleft⟩
      · have hused : e.used = ∅ := hused
        refine ⟨next, Run.rowFrom_cons_eq_done.2 (.inl ⟨e, hrun, ?_⟩), hnext⟩
        exact (Outcome.after_eq_self (o := .failure e) hused start).symm
      · obtain ⟨last, hlast, hmirrors'⟩ :=
          ih (fun q hq => htracked q (List.mem_cons_of_mem _ hq)) hleft hnext
        have hused : s.used = ∅ := hused
        refine ⟨last, Run.rowFrom_cons_eq_done.2 (.inr ⟨s, next, hrun, others, ?_, rfl⟩), hmirrors'⟩
        rw [hused, Used.sequenced_empty]
        exact hlast

theorem Tracked.row {count : Nat} {part : Fin count → Parser S α}
    (htracked : ∀ i, C.Tracked fuel (part i)) : C.Tracked fuel (.row count part) := by
  intro pos ctx state bare o after h
  have hparts : ∀ p ∈ List.ofFn part, C.Tracked fuel p := List.forall_mem_ofFn_iff.2 htracked
  have hleft := h.row
  obtain ⟨next, hrun, hnext⟩ := hleft.tracks h hparts h.mirrors
  cases fuel with
  | zero => cases h.plain
  | succ fuel =>
      refine ⟨next, ?_, hnext⟩
      rw [Grammar.run_row]
      refine (Run.row_eq_done ?_).2 hrun
      -- The first part finishes as its erasure does, which has used nothing.
      intro r hr first middle hfirst
      cases hlist : List.ofFn part with
      | nil =>
          rw [hlist] at hr
          cases hr
      | cons p rest =>
          rw [hlist] at hr hparts hleft
          obtain rfl : C.grammar.run C.input (fuel + 1) p = r := Option.some.inj hr
          obtain ⟨first', middle', hshadow, -⟩ := hleft.step h
          have hp := hshadow state h.mirrors
          rw [Context.carried_self] at hp
          obtain ⟨next', hrun', -⟩ := hparts p List.mem_cons_self hp
          obtain ⟨rfl, -⟩ := Grammar.run_done_unique hfirst hrun'
          exact used_of_plain hp.uses hp.plain

end Row

/-! ## Repetition -/

section Many

variable {fuel rounds pos : Nat} {ctx : Context} {state bare after : State S T}
variable {o : Outcome (List α)}

theorem within_of_manyFrom (huses : C.Uses p)
    (hrun : Run.manyFrom (C.plain fuel p) rounds pos bare = .done o after) : bare.Within after :=
  (Run.stable_manyFrom (stable_plain huses fuel) hrun).1

/-- The rounds that are left after a first one. -/
theorem Shadows.many (h : C.Shadows fuel (.many p) pos ctx state bare o after) :
    ∃ rounds first middle, fuel = rounds + 1 ∧ C.Shadows fuel p pos ctx state bare first middle ∧
      ((∃ e, first = .failure e ∧ middle = after ∧
          o = if e.isFatal then .failure e else .success { value := [], pos, used := e.used }) ∨
        (∃ s, first = .success s ∧ middle = after ∧ s.pos = pos ∧
          o = .success { value := [s.value], pos, used := s.used }) ∨
        ∃ s others, first = .success s ∧ s.pos ≠ pos ∧
          Run.manyFrom (C.plain fuel p) rounds s.pos middle = .done others after ∧
          o = (others.map (s.value :: ·)).withUsed s.used) := by
  cases fuel with
  | zero => cases h.plain
  | succ rounds =>
      have hplain (n : Nat) : C.plain (n + 1) p.many = Run.many n (C.plain (n + 1) p) := rfl
      have hpart : p.Part p.many := .many p
      have hanswers : ∀ n, C.Answers n p.many pos → C.Answers n p pos := by
        rintro n ⟨o', after', hwhole⟩
        cases n with
        | zero => cases hwhole
        | succ n =>
            rw [hplain] at hwhole
            rcases Run.many_eq_done.1 hwhole with ⟨e, hp, -⟩ | ⟨s, hp, -⟩ | ⟨s, middle, hp, -⟩
            · exact ⟨_, after', hp⟩
            · exact ⟨_, after', hp⟩
            · exact ⟨_, middle, hp⟩
      have hwhole := h.plain
      rw [hplain] at hwhole
      rcases Run.many_eq_done.1 hwhole with
        ⟨e, hfirst, rfl⟩ | ⟨s, hfirst, hs, rfl⟩ | ⟨s, middle, hfirst, hs, others, hrest, rfl⟩
      · have hshadow := h.first hpart hfirst h.within hanswers
        exact ⟨rounds, _, after, rfl, hshadow, .inl ⟨e, rfl, rfl, rfl⟩⟩
      · have hshadow := h.first hpart hfirst h.within hanswers
        exact ⟨rounds, _, after, rfl, hshadow, .inr (.inl ⟨s, rfl, rfl, hs, rfl⟩)⟩
      · have hmiddle : middle.Within C.final :=
          (within_of_manyFrom (h.uses.part hpart) hrest).trans h.within
        have hshadow := h.first hpart hfirst hmiddle hanswers
        exact ⟨rounds, _, middle, rfl, hshadow, .inr (.inr ⟨s, others, rfl, hs, hrest, rfl⟩)⟩

/-- A round after the first one is run where no rule is tracked. -/
theorem Mirrors.round (hmirrors : C.Mirrors state bare) (huses : C.Uses p)
    (hrun : Run.manyFrom (C.plain fuel p) rounds pos bare = .done o after)
    (hwithin : after.Within C.final) :
    ∃ fewer first middle, rounds = fewer + 1 ∧ C.Shadows fuel p pos ∅ state bare first middle ∧
      ((∃ e, first = .failure e ∧ middle = after ∧
          o = if e.isFatal then .failure e else .yield [] pos) ∨
        (∃ s, first = .success s ∧ middle = after ∧ s.pos = pos ∧ o = .yield [s.value] pos) ∨
        ∃ s others, first = .success s ∧ s.pos ≠ pos ∧
          Run.manyFrom (C.plain fuel p) fewer s.pos middle = .done others after ∧
          o = others.map (s.value :: ·)) := by
  cases rounds with
  | zero => cases hrun
  | succ fewer =>
      rcases Run.manyFrom_succ_eq_done.1 hrun with
        ⟨e, hfirst, rfl⟩ | ⟨s, hfirst, hs, rfl⟩ | ⟨s, middle, hfirst, hs, others, hrest, rfl⟩
      · have hshadow := Shadows.fresh huses hmirrors hfirst hwithin
        exact ⟨fewer, _, after, rfl, hshadow, .inl ⟨e, rfl, rfl, rfl⟩⟩
      · have hshadow := Shadows.fresh huses hmirrors hfirst hwithin
        exact ⟨fewer, _, after, rfl, hshadow, .inr (.inl ⟨s, rfl, rfl, hs, rfl⟩)⟩
      · have hmiddle : middle.Within C.final := (within_of_manyFrom huses hrest).trans hwithin
        have hshadow := Shadows.fresh huses hmirrors hfirst hmiddle
        exact ⟨fewer, _, middle, rfl, hshadow, .inr (.inr ⟨s, others, rfl, hs, hrest, rfl⟩)⟩

theorem Tracked.manyFrom (hp : C.Tracked fuel p) (huses : C.Uses p)
    (hmirrors : C.Mirrors state bare)
    (hrun : Run.manyFrom (C.plain fuel p) rounds pos bare = .done o after)
    (hwithin : after.Within C.final) :
    ∃ next, Run.manyFrom (C.grammar.run C.input fuel p) rounds pos state = .done o next ∧
      C.Mirrors next after := by
  induction rounds generalizing pos state bare o with
  | zero => cases hrun
  | succ rounds ih =>
      -- The erased round says which way the memoized one goes.
      obtain ⟨_, first, middle, ⟨⟩, hfirst, hcases⟩ := hmirrors.round huses hrun hwithin
      obtain ⟨next, hround, hnext⟩ := hp hfirst
      rcases hcases with
        ⟨e, rfl, rfl, rfl⟩ | ⟨s, rfl, rfl, hs, rfl⟩ | ⟨s, others, rfl, hs, hrest, rfl⟩
      · exact ⟨next, Run.manyFrom_succ_eq_done.2 (.inl ⟨e, hround, rfl⟩), hnext⟩
      · exact ⟨next, Run.manyFrom_succ_eq_done.2 (.inr (.inl ⟨s, hround, hs, rfl⟩)), hnext⟩
      · obtain ⟨last, hlast, hmirrors'⟩ := ih hnext hrest
        refine ⟨last, Run.manyFrom_succ_eq_done.2 (.inr (.inr ?_)), hmirrors'⟩
        exact ⟨s, next, hround, hs, others, hlast, rfl⟩

theorem Tracked.many (hp : C.Tracked fuel p) : C.Tracked fuel (.many p) := by
  intro pos ctx state bare o after h
  obtain ⟨rounds, first, middle, rfl, hfirst, hcases⟩ := h.many
  obtain ⟨next, hrun, hnext⟩ := hp hfirst
  simp only [Tracks, Grammar.run_many]
  rcases hcases with
    ⟨e, rfl, rfl, rfl⟩ | ⟨s, rfl, rfl, hs, rfl⟩ | ⟨s, others, rfl, hs, hrest, rfl⟩
  · exact ⟨next, Run.many_eq_done.2 (.inl ⟨e, hrun, rfl⟩), hnext⟩
  · exact ⟨next, Run.many_eq_done.2 (.inr (.inl ⟨s, hrun, hs, rfl⟩)), hnext⟩
  · obtain ⟨last, hlast, hmirrors⟩ := hp.manyFrom hfirst.uses hnext hrest h.within
    refine ⟨last, Run.many_eq_done.2 (.inr (.inr ?_)), hmirrors⟩
    exact ⟨s, next, hrun, hs, others, hlast, rfl⟩

end Many

end Comparison
end LeftRec
