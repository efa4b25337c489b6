import LeftRec.Memo.Ordered
import LeftRec.Proofs.Tracking
import LeftRec.Proofs.Visits
import LeftRec.Samples.Subtraction

/-!
# Transparency — memoization without left recursion

Where the plain grammar finishes there is no left recursion to speak of: the memoized grammar
finishes with the same outcome, no rule is curtailed on the way, and no stored outcome is taken in
place of a fresh one.
-/

namespace LeftRec

variable {S : Signature} {T : Type → Type} [MemoTable T] {α β γ : Type}

namespace Comparison

variable {C : Comparison S T} {p : Parser S α}

/-! ## Memoized parsers -/

section Memo

variable {kind : S.Kind} {parity : Parity} {key : Key} {body : Parser S (S.Value kind)}
variable {fuel pos : Nat} {ctx : Context} {state bare after : State S T}
variable {o : Outcome (S.Value kind)}

/-- A rule that is run is not being run at the position already. -/
theorem Shadows.depth_eq
    (h : C.Shadows fuel (.memo kind parity key body) pos ctx state bare o after) :
    ctx.depth key = 0 := by
  by_contra hdepth
  have hbody : C.Answers fuel body pos := h.answers
  have hinside := h.inside ⟨kind, parity, key, body⟩ h.uses hdepth
  exact not_inside hbody hinside

/-- The body of a rule is run inside itself and inside what the rule is run inside. -/
theorem Shadows.inner (h : C.Shadows fuel (.memo kind parity key body) pos ctx state bare o after)
    (depth : Nat) : C.Shadows fuel body pos (ctx.withDepth key depth) state bare o after where
  uses := h.uses.part (.memo kind parity key body)
  mirrors := h.mirrors
  plain := h.plain
  within := h.within
  inside node hnode hdepth := by
    by_cases hkey : node.key = key
    -- The rule of this key is being run now, and its body is inside itself.
    · obtain rfl : node = ⟨kind, parity, key, body⟩ := C.keys _ _ hnode h.uses hkey
      exact .itself
    · rw [Context.depth_withDepth, if_neg hkey] at hdepth
      exact (h.inside node hnode hdepth).part (.memo kind parity key body) fun _ hbody => hbody

variable [LawfulMemoTable T]

/-- Storing what the body comes to keeps the table faithful. -/
theorem Mirrors.store (h : C.Mirrors state bare) (huses : C.Uses (.memo kind parity key body))
    (hrun : ∀ later : State S T, bare.Within later →
      C.plain fuel body pos ∅ later = .done o later) :
    C.Mirrors (state.store key pos { kind, outcome := o, context := ∅ }) bare where
  cells_eq := h.cells_eq
  supply_eq := h.supply_eq
  faithful kind' key' pos' o' under hlookup := by
    rcases State.lookup_store_cases hlookup with ⟨rfl, rfl, rfl, rfl, rfl⟩ | hbefore
    -- The entry that was stored just now belongs to this body, since the key does.
    · refine ⟨rfl, fun parity' body' huses' => ⟨fuel, fun later hlater => ?_⟩⟩
      obtain rfl := huses'.body_eq huses
      exact hrun later hlater
    · exact h.faithful hbefore

omit [LawfulMemoTable T] in
/-- What the body finds is kept as it is. -/
theorem keep_eq (huses : C.Uses (.memo kind parity key body)) (hmirrors : C.Mirrors state bare)
    (hrun : C.plain fuel body pos ∅ bare = .done o bare) :
    Run.keep C.input kind parity key pos ctx o state =
      (o, state.store key pos { kind, outcome := o, context := ∅ }) := by
  have hnone : Run.preferred parity (C.input.remaining pos) ctx o (state.lookup kind key pos) =
      none := by
    refine Run.preferred_eq_none fun stored under hlookup => ?_
    exact (hmirrors.stored_eq huses hrun hlookup).1
  have hused : o.used = ∅ := used_of_plain (huses.part (.memo kind parity key body)) hrun
  rw [Run.keep_of_none hnone, hused, Context.pruned_empty]

theorem Tracked.memo (hbody : C.Tracked fuel body) :
    C.Tracked fuel (.memo kind parity key body) := by
  intro pos ctx state bare o after h
  have huses : C.Uses body := h.uses.part (.memo kind parity key body)
  cases fuel with
  | zero => cases h.plain
  | succ fuel =>
      simp only [Tracks, Grammar.run_memo]
      rcases Run.hit_or_missed state kind key pos ctx with
        ⟨stored, under, hlookup, hreuse⟩ | hmissed
      · -- The table has what the erased run comes to, and that run found its cells filled.
        obtain ⟨rfl, rfl, -⟩ := h.mirrors.stored_eq h.uses h.plain hlookup
        exact ⟨_, Run.memo_of_hit hlookup hreuse, h.mirrors.note _⟩
      · have hdepth := h.depth_eq
        obtain ⟨middle, hrun, hmiddle⟩ := hbody (h.inner (ctx.depth key + 1))
        have hagain {later : State S T} (hlater : after.Within later) :=
          plain_again huses h.plain hlater
        have hkeep : Run.keep C.input kind parity key pos ctx o middle = _ :=
          keep_eq h.uses hmiddle (hagain (.refl after))
        -- The rule is not being run here, so it is far from its bound.
        refine ⟨_, Run.memo_eq_done.2 (.inr (.inr ⟨hmissed, ?_, ?_⟩)),
          hmiddle.store h.uses fun later hlater => hagain hlater⟩
        · rw [hdepth]
          exact Nat.zero_le _
        · refine Run.refresh_eq_done.2 ⟨?_, o, middle, hrun, hkeep.symm⟩
          rw [hdepth]
          decide

end Memo

/-! ## Calls -/

section Calls

variable {fuel pos cell : Nat} {ctx : Context} {state bare after : State S T} {rule : S.Rule}
variable {o : Outcome (S.Value (S.kind rule))}

/-- The rule that is called has a definition, which is run with one unit of fuel less. -/
theorem Shadows.ref (h : C.Shadows fuel (.ref rule) pos ctx state bare o after) :
    ∃ less body, fuel = less + 1 ∧ C.grammar.define rule = some body ∧
      C.Shadows less body pos ctx state bare o after := by
  have hcall {n : Nat} {o' : Outcome (S.Value (S.kind rule))} {from' after' : State S T}
      (hrun : C.plain n (.ref rule) pos ∅ from' = .done o' after') :
      ∃ less body, n = less + 1 ∧ C.grammar.define rule = some body ∧
        C.plain less body pos ∅ from' = .done o' after' := by
    cases n with
    | zero => cases hrun
    | succ less =>
        obtain ⟨_, hdefine, hbody⟩ := Grammar.call_rule_eq_done.1 hrun
        obtain ⟨body, hbody', rfl⟩ := Grammar.define_erase.1 hdefine
        exact ⟨less, body, rfl, hbody', hbody⟩
  obtain ⟨less, body, rfl, hdefine, hbody⟩ := hcall h.plain
  have huses : C.Uses body := Grammar.Uses.rule h.uses hdefine
  refine ⟨less, body, rfl, hdefine, huses, h.mirrors, hbody, h.within, fun node hnode hdepth => ?_⟩
  -- The rule has one definition, so any run of the call is a run of this body.
  refine (h.inside node hnode hdepth).call ?_
  rintro n ⟨o', after', hwhole⟩
  obtain ⟨least, _, rfl, hdefine', hagain⟩ := hcall hwhole
  rw [hdefine] at hdefine'
  obtain rfl := Option.some.inj hdefine'
  exact ⟨least, Nat.lt_succ_self least, o', after', hagain⟩

theorem Tracked.ref {less : Nat} (hless : ∀ body : Parser S (S.Value (S.kind rule)),
    C.Tracked less body) : C.Tracked (less + 1) (.ref rule) := by
  intro pos ctx state bare o after h
  obtain ⟨_, body, ⟨⟩, hdefine, hbody⟩ := h.ref
  obtain ⟨next, hrun, hnext⟩ := hless body hbody
  simp only [Tracks, Grammar.run_ref]
  exact ⟨next, Grammar.call_rule_eq_done.2 ⟨body, hdefine, hrun⟩, hnext⟩

/-- Both runs fill a cell from the same supply. -/
theorem Mirrors.fill (h : C.Mirrors state bare) {next : State S T}
    {body : Parser S (S.Value (S.kind rule))}
    (hfill : C.grammar.erase.fill rule cell bare = (.ok body, next)) :
    ∃ q own, C.grammar.fill rule cell state = (.ok q, own) ∧ body = q.erase ∧
      C.Mirrors own next ∧ ∃ supply, next.cells.lookup cell = some supply ∧
        (C.grammar.copy rule).fromSupply supply = .ok q := by
  have hcopied {supply : Supply}
      (hcopy : (C.grammar.erase.copy rule).fromSupply supply = .ok body) :
      ∃ q, (C.grammar.copy rule).fromSupply supply = .ok q ∧ body = q.erase := by
    obtain ⟨q, hq, rfl⟩ := Grammar.copy_erase.1 (Prod.ext hcopy rfl)
    exact ⟨q, congrArg Prod.fst hq, rfl⟩
  rcases (Grammar.fill_eq_ok_iff C.steady.erase).1 hfill with
    ⟨supply, hcell, hcopy, rfl⟩ | ⟨hcell, hcopy, rfl⟩
  · obtain ⟨q, hq, rfl⟩ := hcopied hcopy
    refine ⟨q, state, (Grammar.fill_eq_ok_iff C.steady).2 (.inl ?_), rfl, h, supply, hcell, hq⟩
    exact ⟨supply, h.cells_eq ▸ hcell, hq, rfl⟩
  -- The cell is new to both states, and both have handed out the same numbers.
  · obtain ⟨q, hq, rfl⟩ := hcopied hcopy
    have hwithin := (Grammar.fill_stable C.steady.erase hfill).1
    refine ⟨q, _, (Grammar.fill_eq_ok_iff C.steady).2 (.inr ⟨?_, ?_, rfl⟩), rfl, ?_, _, ?_, hq⟩
    · rw [h.cells_eq]
      exact hcell
    · rw [h.supply_eq]
      exact hq
    · refine ⟨?_, ?_, fun kind key pos o under hlookup => ?_⟩
      · show (cell, state.workshop.supply) :: state.cells = _
        rw [h.cells_eq, h.supply_eq]
      · show (C.grammar.copy rule state.workshop).2.supply = _
        rw [Grammar.copy_erase_snd]
        exact (C.steady rule state.workshop bare.workshop h.supply_eq).2
      · obtain ⟨hunder, hstored⟩ := h.faithful hlookup
        refine ⟨hunder, fun parity body huses => ?_⟩
        obtain ⟨fuel, hagain⟩ := hstored parity body huses
        exact ⟨fuel, fun later hlater => hagain later (hwithin.trans hlater)⟩
    · show ((cell, bare.workshop.supply) :: bare.cells).lookup cell = _
      rw [List.lookup_cons, beq_self_eq_true]

/-- The cell is filled, and the copy in it is run with one unit of fuel less. -/
theorem Shadows.delay (h : C.Shadows fuel (.delay cell rule) pos ctx state bare o after) :
    ∃ less body next middle, fuel = less + 1 ∧
      C.grammar.fill rule cell state = (.ok body, next) ∧
      C.Shadows less body pos ctx next middle o after := by
  cases fuel with
  | zero => cases h.plain
  | succ less =>
      obtain ⟨_, middle, hfill, hbody⟩ := Grammar.call_copy_eq_done.1 h.plain
      obtain ⟨body, next, hfill', rfl, hnext, supply, hcell, hcopy⟩ := h.mirrors.fill hfill
      have hoffered := h.uses.offered.copy hcopy
      have hwithin : middle.Within after :=
        (Grammar.stable_run C.steady hoffered less hbody).1
      have hfinal := hwithin.trans h.within
      have hbuilt : C.final.Built cell ⟨supply, []⟩ := hfinal cell supply hcell
      have huses : C.Uses body := Grammar.Uses.copy h.uses hbuilt hcopy
      refine ⟨less, body, next, middle, rfl, hfill', huses, hnext, hbody, h.within, ?_⟩
      intro node hnode hdepth
      refine (h.inside node hnode hdepth).call ?_
      rintro n ⟨o', after', hwhole⟩
      cases n with
      | zero => cases hwhole
      | succ least =>
          -- In the last state the cell is filled, so filling it gives the same copy.
          have hrefill := (Grammar.fill_stable C.steady.erase hfill).2 C.final hfinal
          obtain ⟨_, _, hfill'', hagain⟩ := Grammar.call_copy_eq_done.1 hwhole
          rw [hrefill] at hfill''
          obtain ⟨⟨⟩, rfl⟩ := Prod.mk.inj hfill''
          exact ⟨least, Nat.lt_succ_self least, o', after', hagain⟩

theorem Tracked.delay {less : Nat} (hless : ∀ body : Parser S (S.Value (S.kind rule)),
    C.Tracked less body) : C.Tracked (less + 1) (.delay cell rule) := by
  intro pos ctx state bare o after h
  obtain ⟨_, body, next, middle, ⟨⟩, hfill, hbody⟩ := h.delay
  obtain ⟨last, hrun, hlast⟩ := hless body hbody
  simp only [Tracks, Grammar.run_delay]
  exact ⟨last, Grammar.call_copy_eq_done.2 ⟨body, next, hfill, hrun⟩, hlast⟩

end Calls

/-! ## Whole runs -/

theorem Tracked.of_pure {fuel : Nat} {f : Nat → Outcome α}
    (hplain : C.plain fuel p = fun pos _ => pure (f pos))
    (hrun : (C.grammar.run C.input fuel p : Run S T α) = fun pos _ => pure (f pos)) :
    C.Tracked fuel p := by
  intro pos ctx state bare o after h
  have hpure := h.plain
  rw [hplain] at hpure
  obtain ⟨rfl, rfl⟩ := Eval.pure_eq_done.1 hpure
  exact ⟨state, by rw [hrun]; rfl, h.mirrors⟩

variable [LawfulMemoTable T]

/-- Whatever an erased parser finishes with, the memoized one finishes with. -/
theorem tracked (fuel : Nat) (p : Parser S α) : C.Tracked fuel p := by
  induction fuel generalizing α with
  | zero =>
      intro pos ctx state bare o after h
      cases h.plain
  | succ fuel ihfuel =>
      induction p with
      | unit | fail | literal | token | find | all | eof | scan => exact .of_pure rfl rfl
      | custom | count =>
          intro pos ctx state bare o after h
          exact h.uses.offered.holds.elim
      | tryMap f p ih => exact ih.single (single_tryMap f p)
      | zipWith f p q ihp ihq => exact .chain (chain_zipWith f p q) ihp fun _ => ihq
      | bind p f ihp ihf => exact .chain (chain_bind p f) ihp ihf
      | alt p q ihp ihq => exact ihp.alt ihq
      | label name p ih => exact ih.single (single_label name p)
      | commit p ih => exact ih.single (single_commit p)
      | look p ih => exact ih.single (single_look p)
      | row count part ih => exact .row ih
      | many p ih => exact ih.many
      | memo kind parity key p ih => exact ih.memo
      | ref rule => exact .ref ihfuel
      | delay cell rule => exact .delay ihfuel

/-- The visit takes part in a run that the erased grammar finishes. -/
def Follows (C : Comparison S T) (v : Visit S T) : Prop :=
  ∃ bare o after, C.Shadows v.fuel v.parser v.pos v.ctx v.state bare o after

section Follows

variable {fuel pos : Nat} {ctx : Context} {state bare after : State S T}

/-- A part that was run finished as its erasure does. -/
theorem Shadows.run_eq {o : Outcome α} (h : C.Shadows fuel p pos ctx state bare o after)
    {first : Outcome α} {next : State S T}
    (hrun : C.grammar.run C.input fuel p pos ctx state = .done first next) :
    first = o ∧ C.Mirrors next after := by
  obtain ⟨next', hrun', hmirrors⟩ := tracked fuel p h
  obtain ⟨ho, rfl⟩ := Grammar.run_done_unique hrun hrun'
  exact ⟨ho, hmirrors⟩

theorem Follows.chain {join : Success α → Outcome β → Outcome γ} {r : α → Parser S β}
    {whole : Parser S γ} (hchain : C.Chain join p r whole)
    (h : C.Follows ⟨whole, fuel, pos, ctx, state⟩) :
    C.Follows ⟨p, fuel, pos, ctx, state⟩ ∧ ∀ ⦃s next⦄,
      C.grammar.run C.input fuel p pos ctx state = .done (.success s) next →
        C.Follows ⟨r s.value, fuel, s.pos, ctx.carried pos s.pos, next⟩ := by
  obtain ⟨bare, o, after, h⟩ := h
  obtain ⟨first, middle, hfirst, hcases⟩ := h.chain hchain
  refine ⟨⟨_, _, _, hfirst⟩, fun s next hrun => ?_⟩
  obtain ⟨rfl, hnext⟩ := hfirst.run_eq hrun
  rcases hcases with ⟨e, ⟨⟩, -⟩ | ⟨_, second, ⟨⟩, -, hsecond⟩
  exact ⟨_, _, _, hsecond next hnext⟩

theorem Follows.alt {q : Parser S α} (h : C.Follows ⟨.alt p q, fuel, pos, ctx, state⟩) :
    C.Follows ⟨p, fuel, pos, ctx, state⟩ ∧ ∀ ⦃e next⦄,
      C.grammar.run C.input fuel p pos ctx state = .done (.failure e) next → e.isFatal = false →
        C.Follows ⟨q, fuel, pos, ctx, next⟩ := by
  obtain ⟨bare, o, after, h⟩ := h
  obtain ⟨first, middle, hfirst, hcases⟩ := h.alt
  refine ⟨⟨_, _, _, hfirst⟩, fun e next hrun he => ?_⟩
  obtain ⟨rfl, hnext⟩ := hfirst.run_eq hrun
  rcases hcases with ⟨s, ⟨⟩, -⟩ | ⟨_, ⟨⟩, he', -⟩ | ⟨_, second, ⟨⟩, -, -, hsecond⟩
  · rw [he] at he'
    cases he'
  · exact ⟨_, _, _, hsecond next hnext⟩

/-- However far a row has come, what is left of it is what is left of the erased one. -/
theorem RowLeft.of_rowAt {count : Nat} {part : Fin count → Parser S α} {o : Outcome (List α)}
    (h : C.Shadows fuel (.row count part) pos ctx state bare o after)
    {rest : List (Parser S α)} {stop : Nat} {middle : State S T}
    (hat : C.grammar.RowAt C.input fuel pos ctx (List.ofFn part) state rest stop middle) :
    ∃ between others, C.Mirrors middle between ∧
      C.RowLeft fuel pos (.row count part) rest stop between others after := by
  induction hat with
  | start => exact ⟨bare, o, h.mirrors, h.row⟩
  | next _ hrun ih =>
      obtain ⟨between, others, hmirrors, hleft⟩ := ih
      obtain ⟨first, last, hfirst, hcases⟩ := hleft.step h
      obtain ⟨rfl, hnext⟩ := (hfirst _ hmirrors).run_eq hrun
      rcases hcases with ⟨e, ⟨⟩, -⟩ | ⟨_, others', ⟨⟩, -, hleft'⟩
      exact ⟨last, others', hnext, hleft'⟩

/-- However far a repetition has come, its next round follows one of the erased one. -/
theorem Follows.of_manyAt {o : Outcome (List α)}
    (h : C.Shadows fuel (.many p) pos ctx state bare o after)
    {stop : Nat} {under : Context} {middle : State S T}
    (hat : C.grammar.ManyAt C.input fuel p pos ctx state stop under middle) :
    ∃ between first last, C.Shadows fuel p stop under middle between first last ∧
      ∀ s, first = .success s → s.pos ≠ stop → ∃ rounds others,
        Run.manyFrom (C.plain fuel p) rounds s.pos last = .done others after := by
  induction hat with
  | start =>
      obtain ⟨rounds, first, last, -, hfirst, hcases⟩ := h.many
      refine ⟨bare, first, last, hfirst, ?_⟩
      rintro s rfl hs
      rcases hcases with ⟨e, ⟨⟩, -⟩ | ⟨_, ⟨⟩, -, hstill, -⟩ | ⟨_, others, ⟨⟩, -, hrest, -⟩
      · exact absurd hstill hs
      · exact ⟨rounds, others, hrest⟩
  | next _ hrun hmoved ih =>
      obtain ⟨between, first, last, hfirst, hleft⟩ := ih
      obtain ⟨rfl, hnext⟩ := hfirst.run_eq hrun
      -- The round moved on, so the erased repetition has gone on behind it as well.
      obtain ⟨rounds, others, hrest⟩ := hleft _ rfl hmoved
      obtain ⟨fewer, first', last', -, hfirst', hcases⟩ := hnext.round hfirst.uses hrest h.within
      refine ⟨last, first', last', hfirst', ?_⟩
      rintro s rfl hs
      rcases hcases with ⟨e, ⟨⟩, -⟩ | ⟨_, ⟨⟩, -, hstill, -⟩ | ⟨_, others', ⟨⟩, -, hrest', -⟩
      · exact absurd hstill hs
      · exact ⟨fewer, others', hrest'⟩

/-- What is entered in the course of a followed visit is followed. -/
theorem Follows.enters {v w : Visit S T} (h : C.Follows v)
    (henters : C.grammar.Enters C.input v w) : C.Follows w := by
  cases henters with
  | count what p =>
      obtain ⟨_, _, _, h⟩ := h
      exact h.uses.offered.holds.elim
  | tryMap f p =>
      obtain ⟨_, _, _, h⟩ := h
      obtain ⟨_, hfirst, -⟩ := h.single (single_tryMap f p)
      exact ⟨_, _, _, hfirst⟩
  | zipWithLeft f p q => exact (h.chain (chain_zipWith f p q)).1
  | zipWithRight f p q hrun => exact (h.chain (chain_zipWith f p q)).2 hrun
  | bindFirst p f => exact (h.chain (chain_bind p f)).1
  | bindNext p f hrun => exact (h.chain (chain_bind p f)).2 hrun
  | altLeft p q => exact h.alt.1
  | altRight p q hrun he => exact h.alt.2 hrun he
  | label name p =>
      obtain ⟨_, _, _, h⟩ := h
      obtain ⟨_, hfirst, -⟩ := h.single (single_label name p)
      exact ⟨_, _, _, hfirst⟩
  | commit p =>
      obtain ⟨_, _, _, h⟩ := h
      obtain ⟨_, hfirst, -⟩ := h.single (single_commit p)
      exact ⟨_, _, _, hfirst⟩
  | look p =>
      obtain ⟨_, _, _, h⟩ := h
      obtain ⟨_, hfirst, -⟩ := h.single (single_look p)
      exact ⟨_, _, _, hfirst⟩
  | row count part hat =>
      obtain ⟨_, _, _, h⟩ := h
      obtain ⟨_, _, hmirrors, hleft⟩ := RowLeft.of_rowAt h hat
      obtain ⟨_, _, hfirst, -⟩ := hleft.step h
      exact ⟨_, _, _, hfirst _ hmirrors⟩
  | many p hat =>
      obtain ⟨_, _, _, h⟩ := h
      obtain ⟨_, _, _, hround, -⟩ := Follows.of_manyAt h hat
      exact ⟨_, _, _, hround⟩
  | memo parity key p hmissed hdepth hlimit =>
      obtain ⟨_, _, _, h⟩ := h
      exact ⟨_, _, _, h.inner _⟩
  | ref hdefine =>
      obtain ⟨_, _, _, h⟩ := h
      obtain ⟨_, _, ⟨⟩, hdefine', hbody⟩ := h.ref
      obtain rfl := Option.some.inj (hdefine.symm.trans hdefine')
      exact ⟨_, _, _, hbody⟩
  | copy hfill =>
      obtain ⟨_, _, _, h⟩ := h
      obtain ⟨_, _, _, _, ⟨⟩, hfill', hbody⟩ := h.delay
      obtain ⟨⟨⟩, rfl⟩ := Prod.mk.inj (hfill.symm.trans hfill')
      exact ⟨_, _, _, hbody⟩

theorem Follows.visits {v w : Visit S T} (h : C.Follows v)
    (hvisits : C.grammar.Visits C.input v w) : C.Follows w := by
  induction hvisits with
  | refl => exact h
  | tail _ henters ih => exact ih.enters henters

end Follows

end Comparison

/-! ## Memoization is transparent -/

namespace Grammar

variable [LawfulMemoTable T] {G : Grammar S} {input : Input S.Token}

/-- Where the erased grammar finishes from a state without entries, the memoized one finishes with
the same outcome, for which nothing was used.  In its course no rule is curtailed, and every rule
whose body is run keeps what the body found. -/
theorem run_erase_agrees {root : Parser S α} {fuel pos : Nat} {state after : State S T}
    {o : Outcome α} (hsteady : G.Steady) (hoffered : G.Built Parser.Offered root)
    (hkeys : G.DistinctKeys after.Built root) (hstate : state.NoEntries)
    (hplain : G.erase.run input fuel root.erase pos ∅ state = .done o after) :
    o.used = ∅ ∧ (∃ next, G.run input fuel root pos ∅ state = .done o next) ∧
      ∀ ⦃kind parity key fuel' pos' ctx' state'⦄ ⦃body : Parser S (S.Value kind)⦄,
        G.Visits input ⟨root, fuel, pos, ∅, state⟩
            ⟨.memo kind parity key body, fuel', pos', ctx', state'⟩ →
          ctx'.depth key ≤ Run.depthBound (input.remaining pos') ∧
          ∀ fresh middle, G.run input fuel' body pos'
              (ctx'.withDepth key (ctx'.depth key + 1)) state' = .done fresh middle →
            (Run.keep input kind parity key pos' ctx' fresh middle).1 = fresh := by
  let C : Comparison S T :=
    { grammar := G, input, root, final := after, steady := hsteady, offered := hoffered,
      keys := hkeys }
  have hroot : C.Shadows fuel root pos ∅ state state o after :=
    .fresh .itself (.of_noEntries hstate) hplain (.refl after)
  refine ⟨Comparison.used_of_plain hroot.uses hplain, ?_, fun kind parity key fuel' pos' ctx'
    state' body hvisits => ?_⟩
  · obtain ⟨next, hrun, -⟩ := Comparison.tracked fuel root hroot
    exact ⟨next, hrun⟩
  -- Whatever is visited is followed, so its body comes to what the erased body comes to.
  · have hfollows : C.Follows ⟨root, fuel, pos, ∅, state⟩ := ⟨state, o, after, hroot⟩
    obtain ⟨bare, o', last, h⟩ := hfollows.visits hvisits
    have hdepth : ctx'.depth key = 0 := h.depth_eq
    refine ⟨hdepth ▸ Nat.zero_le _, fun fresh middle hrun => ?_⟩
    have hbody := h.inner (ctx'.depth key + 1)
    obtain ⟨rfl, hmirrors⟩ := hbody.run_eq hrun
    have hagain := Comparison.plain_again hbody.uses hbody.plain (.refl last)
    rw [Comparison.keep_eq h.uses hmirrors hagain]

/-- A digit that both branches of a choice begin with: the second one has it from the table. -/
theorem run_erase_agrees_digit :
    let digit : Parser Samples.IntRule Int :=
      (Parser.token (S := Samples.IntRule) Char.isDigit "digit").map fun c => c.toNat - '0'.toNat
    let body : Parser Samples.IntRule Int := .memo (S := Samples.IntRule) () .even (.id 0) digit
    let rule : Parser Samples.IntRule Int := .ref (S := Samples.IntRule) ()
    let start := (rule.skip (.text "+")).alt (rule.skip (.text "-"))
    let G : Grammar Samples.IntRule := { define := fun _ => some body }
    (∃ next, G.run (T := OrderedTable) (Input.ofText "7-") 20 start 0 ∅ .new =
      .done (.success ⟨7, 2, ∅⟩) next) ∧
    ∀ fuel pos ctx (state : State Samples.IntRule OrderedTable),
      G.Visits (Input.ofText "7-") ⟨start, 20, 0, ∅, .new⟩ ⟨body, fuel, pos, ctx, state⟩ →
        ctx.depth (.id 0) ≤ Run.depthBound ((Input.ofText "7-").remaining pos) := by
  intro digit body rule start G
  have hall : G.Built (fun p => p.Offered ∧ p.Listed body.node?.toList) start := by
    have ok {α : Type} {p : Parser Samples.IntRule α} (hp : p.node? = none) :
        True ∧ p.Listed body.node?.toList := ⟨trivial, fun node h => by rw [hp] at h; cases h⟩
    refine Built.of_all ?_ (fun rule found hdefine => ?_) ?_
    · exact ⟨ok rfl, ⟨ok rfl, ok rfl, ok rfl, ok rfl⟩, ok rfl, ok rfl, ok rfl, ok rfl⟩
    · obtain rfl := Option.some.inj hdefine
      refine ⟨⟨trivial, ?_⟩, ok rfl, ok rfl⟩
      rintro _ ⟨⟩
      exact List.mem_cons_self
    · intro rule workshop found hcopy
      cases hcopy
  let check (o : Outcome Int) (_ : State Samples.IntRule OrderedTable) : Bool :=
    decide (o = .success ⟨7, 2, ∅⟩)
  have hcheck : (G.erase.run (Input.ofText "7-") 20 start.erase 0 ∅ .new).finishedWith check =
      true := by
    decide +kernel
  obtain ⟨o, after, hplain, ho⟩ := Result.exists_of_finishedWith hcheck
  obtain rfl := of_decide_eq_true (p := o = _) ho
  obtain ⟨-, hrun, hvisits⟩ := run_erase_agrees (fun _ => Build.steady_fault _)
    (fun _ q hq => (hall q hq).1) (.of_listed (fun _ q hq => (hall q hq).2) (by decide))
    State.noEntries_new hplain
  exact ⟨hrun, fun fuel pos ctx state h => (hvisits h).1⟩

end Grammar

end LeftRec
