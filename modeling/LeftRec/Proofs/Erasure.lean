import LeftRec.Proofs.ContextMap
import LeftRec.Proofs.Plain
import LeftRec.Proofs.Visits

/-!
# Erasure — grammars without their memoization

Erasing a grammar replaces every memoized parser by the parser inside it.  A run of what is left
fills cells and changes nothing else that a later run could see.  So once it has finished it may be
repeated from any state in which those cells are filled, and comes to the same outcome.
-/

namespace LeftRec

variable {S : Signature} {T : Type → Type} {α β γ : Type}

/-! ## Erasing -/

/-- The parser with every memoized parser replaced by the one inside it. -/
def Parser.erase : {α : Type} → Parser S α → Parser S α
  | _, .count what p => .count what p.erase
  | _, .tryMap f p => .tryMap f p.erase
  | _, .zipWith f p q => .zipWith f p.erase q.erase
  | _, .bind p f => .bind p.erase fun a => (f a).erase
  | _, .alt p q => .alt p.erase q.erase
  | _, .label name p => .label name p.erase
  | _, .commit p => .commit p.erase
  | _, .look p => .look p.erase
  | _, .row n part => .row n fun i => (part i).erase
  | _, .many p => .many p.erase
  | _, .memo _ _ _ p => p.erase
  | _, p => p

namespace Grammar

/-- The grammar with all definitions and copies erased. -/
def erase (G : Grammar S) : Grammar S where
  define rule := (G.define rule).map Parser.erase
  copy rule workshop :=
    match G.copy rule workshop with
    | (.ok p, next) => (.ok p.erase, next)
    | (.error fault, next) => (.error fault, next)

theorem copy_erase {G : Grammar S} {rule : S.Rule} {w next : Workshop}
    {p : Parser S (S.Value (S.kind rule))} :
    G.erase.copy rule w = (.ok p, next) ↔
      ∃ q, G.copy rule w = (.ok q, next) ∧ p = q.erase := by
  simp only [erase]
  rcases G.copy rule w with ⟨_ | q, next'⟩
  · simp
  · simp only [Prod.mk.injEq, Except.ok.injEq]
    constructor
    · rintro ⟨rfl, rfl⟩
      exact ⟨q, ⟨rfl, rfl⟩, rfl⟩
    · rintro ⟨_, ⟨rfl, rfl⟩, rfl⟩
      exact ⟨rfl, rfl⟩

/-- Erasing takes back no number and no event. -/
theorem copy_erase_snd (G : Grammar S) (rule : S.Rule) (w : Workshop) :
    (G.erase.copy rule w).2 = (G.copy rule w).2 := by
  simp only [erase]
  rcases G.copy rule w with ⟨_ | q, next⟩
  · rfl
  · rfl

end Grammar

/-! ## Filled cells -/

/-- Every cell that is filled in the first state is filled from the same supply in the second. -/
def State.Within (state later : State S T) : Prop :=
  ∀ cell supply, state.cells.lookup cell = some supply → later.cells.lookup cell = some supply

namespace State.Within

theorem refl (state : State S T) : state.Within state :=
  fun _ _ h => h

theorem trans {state middle later : State S T} (h : state.Within middle)
    (h' : middle.Within later) : state.Within later :=
  fun cell supply hcell => h' cell supply (h cell supply hcell)

end State.Within

/-! ## Repeatable runs -/

/-- A finished run under the empty context has only filled cells, has used no rule, and may be
repeated from every state that has those cells. -/
def Run.Stable (p : Run S T α) : Prop :=
  ∀ ⦃pos state o after⦄, p pos ∅ state = .done o after → state.Within after ∧ o.used = ∅ ∧
    ∀ later : State S T, after.Within later → p pos ∅ later = .done o later

@[simp]
theorem Outcome.used_map (o : Outcome α) (f : α → β) : (o.map f).used = o.used := by
  cases o with
  | success s => rfl
  | failure e => rfl

theorem Outcome.used_mapFailure (o : Outcome α) {f : Failure → Failure}
    (hf : ∀ e, (f e).used = e.used) : (o.mapFailure f).used = o.used := by
  cases o with
  | success s => rfl
  | failure e => exact hf e

section UsedSets

variable {o : Outcome α} (h : o.used = ∅)

include h

/-- A sequence of which nothing was used has the outcome of its last part. -/
theorem Outcome.after_eq_self (start : Nat) : o.after start ∅ = o := by
  rw [Outcome.after, h, Used.sequenced_empty, ← h]
  cases o with
  | success s => rfl
  | failure e => rfl

theorem Outcome.used_after_eq (start : Nat) : (o.after start ∅).used = ∅ := by
  rw [Outcome.after_eq_self h, h]

theorem Outcome.used_mapFailure_eq {f : Failure → Failure} (hf : ∀ e, (f e).used = e.used) :
    (o.mapFailure f).used = ∅ :=
  (o.used_mapFailure hf).trans h

end UsedSets

namespace Run

variable {p : Run S T α} {q : Run S T β}

theorem stable_pure {f : Nat → Outcome α} (h : ∀ pos, (f pos).used = ∅) :
    Stable (T := T) (S := S) fun pos _ => pure (f pos) := by
  intro pos state o after hrun
  obtain ⟨rfl, rfl⟩ := Eval.pure_eq_done.1 hrun
  exact ⟨.refl _, h pos, fun _ _ => rfl⟩

theorem Stable.wraps {finish : Nat → Outcome α → Outcome β → Prop} {whole : Run S T β}
    (hp : p.Stable) (hwhole : Wraps finish p whole)
    (hused : ∀ pos first o, finish pos first o → first.used = ∅ → o.used = ∅) : whole.Stable := by
  intro pos state o after hrun
  obtain ⟨first, hfirst, hfinish⟩ := hwhole.1 hrun
  obtain ⟨hwithin, hnone, hagain⟩ := hp hfirst
  refine ⟨hwithin, hused pos first o hfinish hnone, fun later h => ?_⟩
  exact hwhole.2 ⟨first, hagain later h, hfinish⟩

theorem Stable.chains {join : Success α → Outcome β → Outcome γ} {f : α → Run S T β}
    {whole : Run S T γ} (hp : p.Stable) (hf : ∀ a, (f a).Stable) (hwhole : Chains join p f whole)
    (hjoin : ∀ s o, (join s o).used = o.used) : whole.Stable := by
  intro pos state o after hrun
  rcases hwhole.1 hrun with ⟨e, hfirst, rfl⟩ | ⟨s, middle, hfirst, second, hsecond, rfl⟩
  · obtain ⟨hwithin, hused, hagain⟩ := hp hfirst
    exact ⟨hwithin, hused, fun later h => hwhole.2 (.inl ⟨e, hagain later h, rfl⟩)⟩
  · rw [Context.carried_empty] at hsecond
    obtain ⟨hmiddle, hused, hagain⟩ := hp hfirst
    obtain ⟨hafter, hused', hagain'⟩ := hf s.value hsecond
    have hnone : s.used = ∅ := hused
    refine ⟨hmiddle.trans hafter, ?_, fun later h => ?_⟩
    · rw [hnone]
      exact Outcome.used_after_eq ((hjoin s second).trans hused') pos
    · refine hwhole.2 (.inr ⟨s, later, hagain later (hafter.trans h), second, ?_, rfl⟩)
      rw [Context.carried_empty]
      exact hagain' later h

theorem Stable.tryMap (f : α → Except Fault β) (hp : p.Stable) : (Run.tryMap f p).Stable := by
  refine hp.wraps (wraps_tryMap f p) fun pos first o hfinish hused => ?_
  rcases hfinish with ⟨e, rfl, rfl⟩ | ⟨s, value, rfl, -, rfl⟩
  · exact hused
  · exact hused

theorem Stable.bind {f : α → Run S T β} (hp : p.Stable) (hf : ∀ a, (f a).Stable) :
    (Run.bind p f).Stable :=
  hp.chains hf (chains_bind p f) fun _ _ => rfl

theorem Stable.zipWith (f : α → β → γ) (hp : p.Stable) (hq : q.Stable) :
    (Run.zipWith f p q).Stable :=
  hp.chains (fun _ => hq) (chains_zipWith f p q) fun _ o => o.used_map _

theorem stable_rowFrom {parts : List (Run S T α)} (h : ∀ p ∈ parts, p.Stable) {start pos : Nat}
    {state after : State S T} {o : Outcome (List α)}
    (hrun : rowFrom start ∅ parts pos ∅ state = .done o after) :
    state.Within after ∧ o.used = ∅ ∧ ∀ later : State S T, after.Within later →
      rowFrom start ∅ parts pos ∅ later = .done o later := by
  induction parts generalizing pos state o with
  | nil =>
      obtain ⟨rfl, rfl⟩ := Eval.pure_eq_done.1 hrun
      exact ⟨.refl _, rfl, fun _ _ => rfl⟩
  | cons p rest ih =>
      have hp := h p List.mem_cons_self
      rcases rowFrom_cons_eq_done.1 hrun with
        ⟨e, hfirst, rfl⟩ | ⟨s, middle, hfirst, others, hrest, rfl⟩
      · rw [Context.carried_empty] at hfirst
        obtain ⟨hwithin, hused, hagain⟩ := hp hfirst
        refine ⟨hwithin, Outcome.used_after_eq hused start, fun later h => ?_⟩
        refine rowFrom_cons_eq_done.2 (.inl ⟨e, ?_, rfl⟩)
        rw [Context.carried_empty]
        exact hagain later h
      · rw [Context.carried_empty] at hfirst
        obtain ⟨hmiddle, hused, hagain⟩ := hp hfirst
        -- Nothing was used so far, so the rest of the row starts from the empty set again.
        have hsequenced : Used.sequenced start s.pos ∅ s.used = ∅ := by
          rw [show s.used = ∅ from hused, Used.sequenced_empty]
        rw [hsequenced] at hrest
        obtain ⟨hafter, hused', hagain'⟩ := ih (fun q hq => h q (List.mem_cons_of_mem _ hq)) hrest
        refine ⟨hmiddle.trans hafter, (Outcome.used_map _ _).trans hused', fun later h => ?_⟩
        refine rowFrom_cons_eq_done.2 (.inr ⟨s, later, ?_, others, ?_, rfl⟩)
        · rw [Context.carried_empty]
          exact hagain later (hafter.trans h)
        · rw [hsequenced]
          exact hagain' later h

/-- A row of which nothing was used is run like the rest of one. -/
theorem row_eq_done {parts : List (Run S T α)} {pos : Nat} {ctx : Context}
    {state after : State S T} {o : Outcome (List α)}
    (h : ∀ p ∈ parts.head?, ∀ first next, p pos ctx state = .done first next → first.used = ∅) :
    row parts pos ctx state = .done o after ↔
      rowFrom pos ctx parts pos ∅ state = .done o after := by
  cases parts with
  | nil => exact Iff.rfl
  | cons p rest =>
      have hp := h p rfl
      rw [row_cons_eq_done, rowFrom_cons_eq_done, Context.carried_self]
      refine or_congr ?_ ?_
      · refine exists_congr fun e => and_congr_right fun hrun => ?_
        have hused : e.used = ∅ := hp _ _ hrun
        rw [Outcome.after_eq_self (o := .failure e) hused]
      · refine exists_congr fun s => exists_congr fun middle => and_congr_right fun hrun => ?_
        have hused : s.used = ∅ := hp _ _ hrun
        rw [hused, Used.sequenced_empty]

theorem stable_row {parts : List (Run S T α)} (h : ∀ p ∈ parts, p.Stable) :
    (row parts).Stable := by
  intro pos state o after hrun
  have hfirst (before : State S T) : ∀ p ∈ parts.head?, ∀ first next,
      p pos ∅ before = .done first next → first.used = ∅ :=
    fun p hp _ _ hp' => (h p (List.mem_of_head? hp) hp').2.1
  obtain ⟨hwithin, hused, hagain⟩ := stable_rowFrom h ((row_eq_done (hfirst state)).1 hrun)
  refine ⟨hwithin, hused, fun later hlater => ?_⟩
  exact (row_eq_done (hfirst later)).2 (hagain later hlater)

theorem Stable.alt {q : Run S T α} (hp : p.Stable) (hq : q.Stable) : (Run.alt p q).Stable := by
  intro pos state o after hrun
  rcases alt_eq_done.1 hrun with
    ⟨s, hfirst, rfl⟩ | ⟨e, hfirst, he, rfl⟩ | ⟨e, middle, hfirst, he, hsecond⟩
  · obtain ⟨hwithin, hused, hagain⟩ := hp hfirst
    exact ⟨hwithin, hused, fun later h => alt_eq_done.2 (.inl ⟨s, hagain later h, rfl⟩)⟩
  · obtain ⟨hwithin, hused, hagain⟩ := hp hfirst
    refine ⟨hwithin, hused, fun later h => ?_⟩
    exact alt_eq_done.2 (.inr (.inl ⟨e, hagain later h, he, rfl⟩))
  · obtain ⟨hmiddle, hused, hagain⟩ := hp hfirst
    have hused : e.used = ∅ := hused
    rcases hsecond with ⟨s, hsecond, rfl⟩ | ⟨second, hsecond, rfl⟩
    · obtain ⟨hafter, hused', hagain'⟩ := hq hsecond
      have hused' : s.used = ∅ := hused'
      refine ⟨hmiddle.trans hafter, ?_, fun later h => ?_⟩
      · simp only [Outcome.used, hused, hused']
        rfl
      · have hfirst := hagain later (hafter.trans h)
        exact alt_eq_done.2 (.inr (.inr ⟨e, later, hfirst, he, .inl ⟨s, hagain' later h, rfl⟩⟩))
    · obtain ⟨hafter, hused', hagain'⟩ := hq hsecond
      have hused' : second.used = ∅ := hused'
      refine ⟨hmiddle.trans hafter, ?_, fun later h => ?_⟩
      · simp only [Outcome.used, Failure.used_merge, hused, hused']
        rfl
      · have hfirst := hagain later (hafter.trans h)
        refine alt_eq_done.2 (.inr (.inr ⟨e, later, hfirst, he, .inr ⟨second, ?_, rfl⟩⟩))
        exact hagain' later h

theorem Stable.label (name : String) (hp : p.Stable) : (Run.label name p).Stable := by
  refine hp.wraps (wraps_label name p) fun pos first o hfinish hused => ?_
  rw [hfinish]
  exact Outcome.used_mapFailure_eq hused (used_relabel name pos)

theorem Stable.commit (hp : p.Stable) : (Run.commit p).Stable := by
  refine hp.wraps (wraps_commit p) fun pos first o hfinish hused => ?_
  rw [hfinish]
  exact Outcome.used_mapFailure_eq hused fun _ => rfl

theorem Stable.look (hp : p.Stable) : (Run.look p).Stable := by
  refine hp.wraps (wraps_look p) fun pos first o hfinish hused => ?_
  rw [hfinish]
  exact hused

theorem stable_manyFrom (hp : p.Stable) {rounds pos : Nat} {state after : State S T}
    {o : Outcome (List α)} (hrun : manyFrom p rounds pos state = .done o after) :
    state.Within after ∧ o.used = ∅ ∧ ∀ later : State S T, after.Within later →
      manyFrom p rounds pos later = .done o later := by
  induction rounds generalizing pos state o with
  | zero => cases hrun
  | succ rounds ih =>
      rcases manyFrom_succ_eq_done.1 hrun with
        ⟨e, hfirst, rfl⟩ | ⟨s, hfirst, hs, rfl⟩ | ⟨s, middle, hfirst, hs, others, hrest, rfl⟩
      · obtain ⟨hwithin, hused, hagain⟩ := hp hfirst
        refine ⟨hwithin, ?_, fun later h => ?_⟩
        · split
          · exact hused
          · rfl
        · exact manyFrom_succ_eq_done.2 (.inl ⟨e, hagain later h, rfl⟩)
      · obtain ⟨hwithin, -, hagain⟩ := hp hfirst
        refine ⟨hwithin, rfl, fun later h => ?_⟩
        exact manyFrom_succ_eq_done.2 (.inr (.inl ⟨s, hagain later h, hs, rfl⟩))
      · obtain ⟨hmiddle, -, hagain⟩ := hp hfirst
        obtain ⟨hafter, hused, hagain'⟩ := ih hrest
        refine ⟨hmiddle.trans hafter, (Outcome.used_map _ _).trans hused, fun later h => ?_⟩
        have hfirst := hagain later (hafter.trans h)
        refine manyFrom_succ_eq_done.2 (.inr (.inr ⟨s, later, hfirst, hs, others, ?_, rfl⟩))
        exact hagain' later h

theorem Stable.many (rounds : Nat) (hp : p.Stable) : (Run.many rounds p).Stable := by
  intro pos state o after hrun
  rcases many_eq_done.1 hrun with
    ⟨e, hfirst, rfl⟩ | ⟨s, hfirst, hs, rfl⟩ | ⟨s, middle, hfirst, hs, others, hrest, rfl⟩
  · obtain ⟨hwithin, hused, hagain⟩ := hp hfirst
    refine ⟨hwithin, ?_, fun later h => many_eq_done.2 (.inl ⟨e, hagain later h, rfl⟩)⟩
    split
    · exact hused
    · exact hused
  · obtain ⟨hwithin, hused, hagain⟩ := hp hfirst
    refine ⟨hwithin, hused, fun later h => ?_⟩
    exact many_eq_done.2 (.inr (.inl ⟨s, hagain later h, hs, rfl⟩))
  · obtain ⟨hmiddle, hused, hagain⟩ := hp hfirst
    obtain ⟨hafter, -, hagain'⟩ := stable_manyFrom hp hrest
    refine ⟨hmiddle.trans hafter, ?_, fun later h => ?_⟩
    · rw [show s.used = ∅ from hused]
      cases others with
      | success s => rfl
      | failure e => rfl
    · have hfirst := hagain later (hafter.trans h)
      exact many_eq_done.2 (.inr (.inr ⟨s, later, hfirst, hs, others, hagain' later h, rfl⟩))

end Run

/-! ## Runs of erased grammars -/

namespace Grammar

variable [MemoTable T] {G : Grammar S} {input : Input S.Token}

omit [MemoTable T] in
/-- Filling gives a copy that was built from the supply that is noted for the cell. -/
theorem fill_eq_ok_iff (hsteady : G.Steady) {rule : S.Rule} {cell : Nat} {state next : State S T}
    {body : Parser S (S.Value (S.kind rule))} :
    G.fill rule cell state = (.ok body, next) ↔
      (∃ supply, state.cells.lookup cell = some supply ∧
        (G.copy rule).fromSupply supply = .ok body ∧ next = state) ∨
      (state.cells.lookup cell = none ∧
        (G.copy rule).fromSupply state.workshop.supply = .ok body ∧
        next = { state with workshop := (G.copy rule state.workshop).2,
                            cells := (cell, state.workshop.supply) :: state.cells }) := by
  simp only [fill]
  cases hcell : state.cells.lookup cell with
  | some supply =>
      simp only [Prod.mk.injEq, Option.some.injEq, reduceCtorEq, false_and, or_false]
      constructor
      · rintro ⟨hbody, rfl⟩
        exact ⟨supply, rfl, hbody, rfl⟩
      · rintro ⟨_, rfl, hbody, rfl⟩
        exact ⟨hbody, rfl⟩
  -- The first copy is built with all events so far, later ones are built with none.
  | none =>
      have hcopy := (hsteady rule state.workshop ⟨state.workshop.supply, []⟩ rfl).1
      simp only [Build.fromSupply, ← hcopy, reduceCtorEq, false_and, exists_false, false_or,
        true_and]
      rcases G.copy rule state.workshop with ⟨_ | body', workshop⟩
      · simp
      · simp only [Prod.mk.injEq, Except.ok.injEq]
        exact and_congr_right fun _ => eq_comm

omit [MemoTable T] in
/-- What was filled stays filled, and gives the same copy again. -/
theorem fill_stable (hsteady : G.Steady) {rule : S.Rule} {cell : Nat} {state next : State S T}
    {body : Parser S (S.Value (S.kind rule))} (h : G.fill rule cell state = (.ok body, next)) :
    state.Within next ∧ ∀ later : State S T, next.Within later →
      G.fill rule cell later = (.ok body, later) := by
  rcases (fill_eq_ok_iff hsteady).1 h with
    ⟨supply, hcell, hcopy, rfl⟩ | ⟨hcell, hcopy, rfl⟩
  · refine ⟨.refl _, fun later hlater => (fill_eq_ok_iff hsteady).2 (.inl ?_)⟩
    exact ⟨supply, hlater cell supply hcell, hcopy, rfl⟩
  · constructor
    · intro other supply hother
      show ((cell, state.workshop.supply) :: state.cells).lookup other = some supply
      rw [List.lookup_cons]
      -- A cell that was filled before is another one, since this one was not.
      cases hbeq : other == cell with
      | true =>
          obtain rfl := eq_of_beq hbeq
          rw [hcell] at hother
          cases hother
      | false => exact hother
    · refine fun later hlater => (fill_eq_ok_iff hsteady).2 (.inl ?_)
      refine ⟨state.workshop.supply, hlater cell _ ?_, hcopy, rfl⟩
      show ((cell, state.workshop.supply) :: state.cells).lookup cell = _
      rw [List.lookup_cons, beq_self_eq_true]

theorem Steady.erase (hsteady : G.Steady) : G.erase.Steady := by
  intro rule w w' hsupply
  obtain ⟨hcopy, hnext⟩ := hsteady rule w w' hsupply
  simp only [Grammar.erase]
  revert hcopy hnext
  rcases G.copy rule w with ⟨_ | p, next⟩ <;> rcases G.copy rule w' with ⟨_ | p', next'⟩
  · rintro ⟨⟩ hnext
    exact ⟨rfl, hnext⟩
  · rintro ⟨⟩
  · rintro ⟨⟩
  · rintro ⟨⟩ hnext
    exact ⟨rfl, hnext⟩

/-- An erased parser is stable if the rules and copies that it calls are. -/
theorem stable_eval {rounds : Nat} {call : Caller S T} {p : Parser S α}
    (hoffered : G.Built Parser.Offered p)
    (hrule : ∀ rule, G.Built Parser.Offered (.ref rule : Parser S _) → (call rule none).Stable)
    (hcopy : ∀ cell rule, G.Built Parser.Offered (.delay cell rule : Parser S _) →
      (call rule (some cell)).Stable) :
    (p.erase.eval input rounds call).Stable := by
  induction p with
  | unit | fail | all => exact Run.stable_pure fun _ => rfl
  | literal | token | find | eof | scan => exact Run.stable_pure fun _ => Run.used_found _ _ _
  | custom | count => exact hoffered.holds.elim
  | tryMap f p ih => exact (ih (hoffered.part (.tryMap f p))).tryMap f
  | zipWith f p q ihp ihq =>
      exact (ihp (hoffered.part (.zipWithLeft f p q))).zipWith f
        (ihq (hoffered.part (.zipWithRight f p q)))
  | bind p f ihp ihf =>
      exact (ihp (hoffered.part (.bindFirst p f))).bind fun a =>
        ihf a (hoffered.part (.bindNext p f a))
  | alt p q ihp ihq =>
      exact (ihp (hoffered.part (.altLeft p q))).alt (ihq (hoffered.part (.altRight p q)))
  | label name p ih => exact (ih (hoffered.part (.label name p))).label name
  | commit p ih => exact (ih (hoffered.part (.commit p))).commit
  | look p ih => exact (ih (hoffered.part (.look p))).look
  | row count part ih =>
      exact Run.stable_row
        (List.forall_mem_ofFn_iff.2 fun i => ih i (hoffered.part (.row count part i)))
  | many p ih => exact (ih (hoffered.part (.many p))).many rounds
  | memo kind parity key p ih => exact ih (hoffered.part (.memo kind parity key p))
  | ref rule => exact hrule rule hoffered
  | delay cell rule => exact hcopy cell rule hoffered

theorem define_erase {rule : S.Rule} {body : Parser S (S.Value (S.kind rule))} :
    G.erase.define rule = some body ↔ ∃ q, G.define rule = some q ∧ body = q.erase := by
  simp only [Grammar.erase, Option.map_eq_some_iff]
  exact exists_congr fun q => and_congr_right fun _ => eq_comm

/-- Finished runs of erased parsers may be repeated from wherever their cells are filled. -/
theorem stable_run (hsteady : G.Steady) {p : Parser S α} (hoffered : G.Built Parser.Offered p)
    (fuel : Nat) : (G.erase.run input fuel p.erase : Run S T α).Stable := by
  induction fuel generalizing α with
  | zero =>
      intro pos state o after hrun
      cases hrun
  | succ fuel ih =>
      rw [run_succ]
      -- Calls have one unit of fuel less, so they are stable by induction.
      refine stable_eval hoffered (fun rule hoffered => ?_) fun cell rule hoffered => ?_
      · intro pos state o after hrun
        obtain ⟨body, hdefine, hbody⟩ := call_rule_eq_done.1 hrun
        obtain ⟨q, hq, rfl⟩ := define_erase.1 hdefine
        obtain ⟨hwithin, hused, hagain⟩ := ih (hoffered.rule hq) hbody
        refine ⟨hwithin, hused, fun later h => ?_⟩
        exact call_rule_eq_done.2 ⟨q.erase, hdefine, hagain later h⟩
      · intro pos state o after hrun
        obtain ⟨body, next, hfill, hbody⟩ := call_copy_eq_done.1 hrun
        obtain ⟨⟨workshop, hcopy⟩, -⟩ := fill_eq_ok hfill
        obtain ⟨hnext, hrefill⟩ := fill_stable hsteady.erase hfill
        obtain ⟨q, hq, rfl⟩ := copy_erase.1 (Prod.ext hcopy rfl)
        obtain ⟨hwithin, hused, hagain⟩ := ih (hoffered.copy (congrArg Prod.fst hq)) hbody
        refine ⟨hnext.trans hwithin, hused, fun later h => ?_⟩
        exact call_copy_eq_done.2 ⟨q.erase, later, hrefill later (hwithin.trans h), hagain later h⟩

end Grammar

end LeftRec
