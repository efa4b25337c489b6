import LeftRec.Proofs.Provenance
import LeftRec.Proofs.Repetition

/-!
# Succession — the visits of a run in their order

What a visit enters is entered one after the other: each part begins with the table that the part
before it has left.  So the visits of a whole run stand in an order, and in that order every visit
is listed as often as it is made.
-/

namespace LeftRec

variable {S : Signature} {T : Type → Type} {α β : Type}

/-! ## What is entered, in order -/

/-- What comes behind a success. -/
def Result.behindSuccess {σ γ : Type} {ι : Type 1} (r : Result σ (Outcome γ))
    (next : Success γ → σ → List ι) : List ι :=
  match r with
  | .done (.success s) state => next s state
  | _ => []

/-- What comes behind a failure that is not fatal. -/
def Result.behindFailure {σ γ : Type} {ι : Type 1} (r : Result σ (Outcome γ))
    (next : σ → List ι) : List ι :=
  match r with
  | .done (.failure e) state => if e.isFatal then [] else next state
  | _ => []

theorem Result.mem_behindSuccess {σ γ : Type} {ι : Type 1} {r : Result σ (Outcome γ)}
    {next : Success γ → σ → List ι} {i : ι} :
    i ∈ r.behindSuccess next ↔ ∃ s state, r = .done (.success s) state ∧ i ∈ next s state := by
  constructor
  · intro h
    match r with
    | .done (.success s) state => exact ⟨s, state, rfl, h⟩
  · rintro ⟨s, state, rfl, h⟩
    exact h

theorem Result.mem_behindFailure {σ γ : Type} {ι : Type 1} {r : Result σ (Outcome γ)}
    {next : σ → List ι} {i : ι} :
    i ∈ r.behindFailure next ↔
      ∃ e state, r = .done (.failure e) state ∧ e.isFatal = false ∧ i ∈ next state := by
  constructor
  · intro h
    match r with
    | .done (.failure e) state =>
        simp only [behindFailure] at h
        split at h
        next => cases h
        next he => exact ⟨e, state, rfl, Bool.eq_false_of_not_eq_true he, h⟩
  · rintro ⟨e, state, rfl, he, h⟩
    simpa [behindFailure, he] using h

/-- The rounds behind a first one that finish are a repetition that finishes. -/
theorem Run.many_of_manyFrom {p : Run S T α} {rounds pos : Nat} {state after : State S T}
    {o : Outcome (List α)} (h : manyFrom p rounds pos state = .done o after) :
    ∃ less o', rounds = less + 1 ∧ many less p pos ∅ state = .done o' after := by
  cases rounds with
  | zero => cases h
  | succ less =>
      rcases manyFrom_succ_eq_done.1 h with
        ⟨e, hp, -⟩ | ⟨s, hp, hs, -⟩ | ⟨s, middle, hp, hs, others, hrest, -⟩
      · exact ⟨less, _, rfl, many_eq_done.2 (.inl ⟨e, hp, rfl⟩)⟩
      · exact ⟨less, _, rfl, many_eq_done.2 (.inr (.inl ⟨s, hp, hs, rfl⟩))⟩
      · exact ⟨less, _, rfl, many_eq_done.2 (.inr (.inr ⟨s, middle, hp, hs, others, hrest, rfl⟩))⟩

namespace Grammar

variable [MemoTable T] (G : Grammar S) (input : Input S.Token)

/-- The parts of a row that are entered, from the given ones on. -/
def enteredRow (fuel start : Nat) (ctx : Context) :
    List (Parser S α) → Nat → State S T → List (Visit S T)
  | [], _, _ => []
  | p :: rest, pos, state =>
      ⟨p, fuel, pos, ctx.carried start pos, state⟩ ::
        (G.run input fuel p pos (ctx.carried start pos) state).behindSuccess fun s after =>
          enteredRow fuel start ctx rest s.pos after

/-- The rounds of a repetition that are entered, so many at most. -/
def enteredRounds (fuel : Nat) (p : Parser S α) :
    Nat → Nat → Context → State S T → List (Visit S T)
  | 0, _, _, _ => []
  | rounds + 1, pos, ctx, state =>
      ⟨p, fuel, pos, ctx, state⟩ ::
        (G.run input fuel p pos ctx state).behindSuccess fun s after =>
          if s.pos = pos then [] else enteredRounds fuel p rounds s.pos ∅ after

/-- The visits that a visit enters, in the order in which it does. -/
def entered : Visit S T → List (Visit S T)
  | ⟨.count what p, fuel, pos, ctx, state⟩ => [⟨p, fuel, pos, ctx, state.count what⟩]
  | ⟨.tryMap _ p, fuel, pos, ctx, state⟩ => [⟨p, fuel, pos, ctx, state⟩]
  | ⟨.zipWith _ p q, fuel, pos, ctx, state⟩ =>
      ⟨p, fuel, pos, ctx, state⟩ ::
        (G.run input fuel p pos ctx state).behindSuccess fun s middle =>
          [⟨q, fuel, s.pos, ctx.carried pos s.pos, middle⟩]
  | ⟨.bind p f, fuel, pos, ctx, state⟩ =>
      ⟨p, fuel, pos, ctx, state⟩ ::
        (G.run input fuel p pos ctx state).behindSuccess fun s middle =>
          [⟨f s.value, fuel, s.pos, ctx.carried pos s.pos, middle⟩]
  | ⟨.alt p q, fuel, pos, ctx, state⟩ =>
      ⟨p, fuel, pos, ctx, state⟩ ::
        (G.run input fuel p pos ctx state).behindFailure fun middle =>
          [⟨q, fuel, pos, ctx, middle⟩]
  | ⟨.label _ p, fuel, pos, ctx, state⟩ => [⟨p, fuel, pos, ctx, state⟩]
  | ⟨.commit p, fuel, pos, ctx, state⟩ => [⟨p, fuel, pos, ctx, state⟩]
  | ⟨.look p, fuel, pos, ctx, state⟩ => [⟨p, fuel, pos, ctx, state⟩]
  | ⟨.row _ part, fuel, pos, ctx, state⟩ =>
      G.enteredRow input fuel pos ctx (List.ofFn part) pos state
  | ⟨.many p, fuel, pos, ctx, state⟩ => G.enteredRounds input fuel p fuel pos ctx state
  | ⟨.memo kind _ key p, fuel, pos, ctx, state⟩ =>
      match (state.lookup kind key pos).filter fun (_, under) => ctx.canReuse under with
      | some _ => []
      | none =>
          if Run.depthBound (input.remaining pos) < ctx.depth key then []
          else
            match Run.deepen ctx key with
            | .error _ => []
            | .ok deeper => [⟨p, fuel, pos, deeper, state⟩]
  | ⟨.ref rule, fuel + 1, pos, ctx, state⟩ =>
      match G.define rule with
      | none => []
      | some body => [⟨body, fuel, pos, ctx, state⟩]
  | ⟨.delay cell rule, fuel + 1, pos, ctx, state⟩ =>
      match G.fill rule cell state with
      | (.error _, _) => []
      | (.ok body, next) => [⟨body, fuel, pos, ctx, next⟩]
  | _ => []

variable {G input}

section Memo

variable {kind : S.Kind} {parity : Parity} {key : Key} {p : Parser S (S.Value kind)}
variable {fuel pos : Nat} {ctx : Context} {state : State S T}

theorem entered_of_hit {o : Outcome (S.Value kind)} {under : Context}
    (hlookup : state.lookup kind key pos = some (o, under)) (hreuse : ctx.canReuse under = true) :
    G.entered input ⟨.memo kind parity key p, fuel, pos, ctx, state⟩ = [] := by
  simp only [entered, hlookup, Option.filter_some, hreuse, if_true]

theorem entered_of_missed (hmissed : Run.Missed state kind key pos ctx) :
    G.entered input ⟨.memo kind parity key p, fuel, pos, ctx, state⟩ =
      if ctx.depth key ≤ Run.depthBound (input.remaining pos) ∧
          ctx.depth key < Context.depthLimit then
        [⟨p, fuel, pos, ctx.withDepth key (ctx.depth key + 1), state⟩]
      else [] := by
  have hnone : ((state.lookup kind key pos).filter fun (_, under) => ctx.canReuse under) = none :=
    Option.filter_eq_none_iff.2 fun (o, under) hlookup =>
      Bool.eq_false_iff.1 (hmissed o under hlookup)
  simp only [entered, hnone]
  by_cases hdepth : ctx.depth key ≤ Run.depthBound (input.remaining pos)
  · rw [if_neg (Nat.not_lt.2 hdepth)]
    by_cases hlimit : ctx.depth key < Context.depthLimit
    · rw [if_pos ⟨hdepth, hlimit⟩, Run.deepen_eq_ok.2 ⟨hlimit, rfl⟩]
    · have hover : Run.deepen ctx key = .error (.overflow .add) := if_neg hlimit
      rw [if_neg (hlimit ·.2), hover]
  · rw [if_pos (Nat.not_le.1 hdepth), if_neg (hdepth ·.1)]

end Memo

theorem enters_of_mem_row {fuel start : Nat} {ctx : Context} {n : Nat}
    {part : Fin n → Parser S α} {state : State S T} {rest : List (Parser S α)} {pos : Nat}
    {middle : State S T} (hat : G.RowAt input fuel start ctx (List.ofFn part) state rest pos middle)
    {w : Visit S T} (h : w ∈ G.enteredRow input fuel start ctx rest pos middle) :
    G.Enters input ⟨.row n part, fuel, start, ctx, state⟩ w := by
  induction rest generalizing pos middle with
  | nil => cases h
  | cons p rest ih =>
      rcases List.mem_cons.1 h with rfl | h
      · exact .row n part hat
      · obtain ⟨s, after, hrun, hrest⟩ := Result.mem_behindSuccess.1 h
        exact ih (.next hat hrun) hrest

theorem enters_of_mem_rounds {fuel start : Nat} {ctx under : Context} {p : Parser S α}
    {state middle : State S T} {rounds pos : Nat}
    (hat : G.ManyAt input fuel p start ctx state pos under middle)
    {w : Visit S T} (h : w ∈ G.enteredRounds input fuel p rounds pos under middle) :
    G.Enters input ⟨.many p, fuel, start, ctx, state⟩ w := by
  induction rounds generalizing pos under middle with
  | zero => cases h
  | succ rounds ih =>
      rcases List.mem_cons.1 h with rfl | h
      · exact .many p hat
      · obtain ⟨s, after, hrun, hrest⟩ := Result.mem_behindSuccess.1 h
        by_cases hs : s.pos = pos
        · rw [if_pos hs] at hrest
          cases hrest
        · rw [if_neg hs] at hrest
          exact ih (.next hat hrun hs) hrest

/-- Whatever is listed is entered. -/
theorem enters_of_mem {v w : Visit S T} (h : w ∈ G.entered input v) : G.Enters input v w := by
  obtain ⟨parser, fuel, pos, ctx, state⟩ := v
  cases parser with
  | unit | fail | literal | token | find | all | eof | scan | custom => cases h
  | count what p =>
      obtain rfl := List.mem_singleton.1 h
      exact .count what p
  | tryMap f p =>
      obtain rfl := List.mem_singleton.1 h
      exact .tryMap f p
  | zipWith f p q =>
      rcases List.mem_cons.1 h with rfl | h
      · exact .zipWithLeft f p q
      · obtain ⟨s, middle, hrun, hw⟩ := Result.mem_behindSuccess.1 h
        obtain rfl := List.mem_singleton.1 hw
        exact .zipWithRight f p q hrun
  | bind p f =>
      rcases List.mem_cons.1 h with rfl | h
      · exact .bindFirst p f
      · obtain ⟨s, middle, hrun, hw⟩ := Result.mem_behindSuccess.1 h
        obtain rfl := List.mem_singleton.1 hw
        exact .bindNext p f hrun
  | alt p q =>
      rcases List.mem_cons.1 h with rfl | h
      · exact .altLeft p q
      · obtain ⟨e, middle, hrun, he, hw⟩ := Result.mem_behindFailure.1 h
        obtain rfl := List.mem_singleton.1 hw
        exact .altRight p q hrun he
  | label name p =>
      obtain rfl := List.mem_singleton.1 h
      exact .label name p
  | commit p =>
      obtain rfl := List.mem_singleton.1 h
      exact .commit p
  | look p =>
      obtain rfl := List.mem_singleton.1 h
      exact .look p
  | row count part => exact enters_of_mem_row .start h
  | many p => exact enters_of_mem_rounds .start h
  | memo kind parity key p =>
      rcases Run.hit_or_missed state kind key pos ctx with ⟨o, under, hlookup, hreuse⟩ | hmissed
      · rw [entered_of_hit hlookup hreuse] at h
        cases h
      · rw [entered_of_missed hmissed] at h
        split at h
        next hmay =>
          obtain rfl := List.mem_singleton.1 h
          exact .memo parity key p hmissed hmay.1 hmay.2
        next => cases h
  | ref rule =>
      cases fuel with
      | zero => cases h
      | succ fuel =>
          simp only [entered] at h
          split at h
          next => cases h
          next hdefine =>
            obtain rfl := List.mem_singleton.1 h
            exact .ref hdefine
  | delay cell rule =>
      cases fuel with
      | zero => cases h
      | succ fuel =>
          simp only [entered] at h
          split at h
          next => cases h
          next hfill =>
            obtain rfl := List.mem_singleton.1 h
            exact .copy hfill

/-- What is left of a row is entered last. -/
theorem RowAt.suffix {fuel start pos : Nat} {ctx : Context} {parts rest : List (Parser S α)}
    {state middle : State S T} (h : G.RowAt input fuel start ctx parts state rest pos middle) :
    G.enteredRow input fuel start ctx rest pos middle <:+
      G.enteredRow input fuel start ctx parts start state := by
  induction h with
  | start => exact List.suffix_refl _
  | next _ hrun ih =>
      refine List.IsSuffix.trans ?_ ih
      simp only [enteredRow, hrun, Result.behindSuccess]
      exact List.suffix_cons _ _

/-- What is left of a repetition that finishes is a repetition that finishes, and its rounds are
entered last. -/
theorem ManyAt.suffix {fuel start pos rounds : Nat} {ctx under : Context} {p : Parser S α}
    {state middle after : State S T} {o : Outcome (List α)}
    (h : G.ManyAt input fuel p start ctx state pos under middle)
    (hrun : Run.many rounds (G.run input fuel p) start ctx state = .done o after) :
    ∃ left o', Run.many left (G.run input fuel p) pos under middle = .done o' after ∧
      G.enteredRounds input fuel p (left + 1) pos under middle <:+
        G.enteredRounds input fuel p (rounds + 1) start ctx state := by
  induction h with
  | start => exact ⟨rounds, o, hrun, List.suffix_refl _⟩
  | @next pos under middle next s _ hround hmoved ih =>
      obtain ⟨left, o', hleft, hsuffix⟩ := ih
      rcases Run.many_eq_done.1 hleft with
        ⟨e, hp, -⟩ | ⟨s', hp, hs, -⟩ | ⟨s', last, hp, hs, others, hrest, -⟩
      · cases hround.symm.trans hp
      · cases hround.symm.trans hp
        exact absurd hs hmoved
      · cases hround.symm.trans hp
        obtain ⟨less, o'', rfl, hmany⟩ := Run.many_of_manyFrom hrest
        have hrounds : G.enteredRounds input fuel p (less + 2) pos under middle =
            ⟨p, fuel, pos, under, middle⟩ ::
              G.enteredRounds input fuel p (less + 1) s.pos ∅ next := by
          rw [enteredRounds, hround]
          simp only [Result.behindSuccess, if_neg hmoved]
        rw [hrounds] at hsuffix
        exact ⟨less, o'', hmany, (List.suffix_cons _ _).trans hsuffix⟩

/-- If the visit finishes, whatever it enters is listed. -/
theorem mem_entered_iff {v w : Visit S T} {o : Outcome v.α} {after : State S T}
    (hrun : G.visit input v = .done o after) : w ∈ G.entered input v ↔ G.Enters input v w := by
  refine ⟨enters_of_mem, fun h => ?_⟩
  cases h with
  | count | tryMap | label | commit | look => exact List.mem_singleton_self _
  | zipWithLeft | bindFirst | altLeft => exact List.mem_cons_self
  | zipWithRight f p q hp =>
      exact List.mem_cons_of_mem _
        (Result.mem_behindSuccess.2 ⟨_, _, hp, List.mem_singleton_self _⟩)
  | bindNext p f hp =>
      exact List.mem_cons_of_mem _
        (Result.mem_behindSuccess.2 ⟨_, _, hp, List.mem_singleton_self _⟩)
  | altRight p q hp he =>
      exact List.mem_cons_of_mem _
        (Result.mem_behindFailure.2 ⟨_, _, hp, he, List.mem_singleton_self _⟩)
  | row count part hat => exact hat.suffix.subset List.mem_cons_self
  | @many _ p fuel start ctx state pos under middle hat =>
      cases fuel with
      | zero => cases hrun
      | succ fuel =>
          have hmany : Run.many fuel (G.run input (fuel + 1) p) start ctx state = .done o after :=
            hrun
          obtain ⟨left, -, -, hsuffix⟩ := hat.suffix hmany
          exact hsuffix.subset List.mem_cons_self
  | memo parity key p hmissed hdepth hlimit =>
      rw [entered_of_missed hmissed, if_pos ⟨hdepth, hlimit⟩]
      exact List.mem_singleton_self _
  | ref hdefine =>
      simp only [entered, hdefine]
      exact List.mem_singleton_self _
  | copy hfill =>
      simp only [entered, hfill]
      exact List.mem_singleton_self _

/-! ## One after the other -/

variable (G input) in
/-- Each of the visits begins with the table that the one before it has left, and the last one
leaves the last table. -/
inductive OneByOne : T (Entry S) → List (Visit S T) → T (Entry S) → Prop
  | none {table : T (Entry S)} : OneByOne table [] table
  | more {v : Visit S T} {rest : List (Visit S T)} {o : Outcome v.α} {after : State S T}
      {table : T (Entry S)} :
      G.visit input v = .done o after → OneByOne after.memo rest table →
        OneByOne v.state.memo (v :: rest) table

section OneByOne

variable {fuel start pos : Nat} {ctx : Context} {state middle after : State S T} {p : Parser S α}

theorem OneByOne.first {o : Outcome α} {rest : List (Visit S T)} {table : T (Entry S)}
    (h : G.run input fuel p pos ctx state = .done o middle)
    (hrest : G.OneByOne input middle.memo rest table) :
    G.OneByOne input state.memo (⟨p, fuel, pos, ctx, state⟩ :: rest) table :=
  have hvisit : G.visit input ⟨p, fuel, pos, ctx, state⟩ = .done o middle := h
  .more hvisit hrest

theorem OneByOne.single {o : Outcome α} (h : G.run input fuel p pos ctx state = .done o after) :
    G.OneByOne input state.memo [⟨p, fuel, pos, ctx, state⟩] after.memo :=
  .first h .none

/-- Behind a success the visits go on. -/
theorem OneByOne.success {s : Success α} {next : Success α → State S T → List (Visit S T)}
    {table : T (Entry S)} (hp : G.run input fuel p pos ctx state = .done (.success s) middle)
    (hnext : G.OneByOne input middle.memo (next s middle) table) :
    G.OneByOne input state.memo (⟨p, fuel, pos, ctx, state⟩ ::
      (G.run input fuel p pos ctx state).behindSuccess next) table := by
  rw [hp]
  exact .first hp hnext

/-- Behind a failure they end. -/
theorem OneByOne.failure {e : Failure} {next : Success α → State S T → List (Visit S T)}
    (hp : G.run input fuel p pos ctx state = .done (.failure e) after) :
    G.OneByOne input state.memo (⟨p, fuel, pos, ctx, state⟩ ::
      (G.run input fuel p pos ctx state).behindSuccess next) after.memo := by
  rw [hp]
  exact .single hp

theorem one_by_one_alt {q : Parser S α} {o : Outcome α}
    (h : Run.alt (G.run input fuel p) (G.run input fuel q) pos ctx state = .done o after) :
    G.OneByOne input state.memo (⟨p, fuel, pos, ctx, state⟩ ::
      (G.run input fuel p pos ctx state).behindFailure fun middle =>
        [⟨q, fuel, pos, ctx, middle⟩]) after.memo := by
  rcases Run.alt_eq_done.1 h with ⟨s, hp, -⟩ | ⟨e, hp, he, -⟩ | ⟨e, middle, hp, he, hq⟩
  · rw [hp]
    exact .single hp
  · simp only [hp, Result.behindFailure, he, if_true]
    exact .single hp
  · simp only [hp, Result.behindFailure, he, Bool.false_eq_true, if_false]
    rcases hq with ⟨s, hq, -⟩ | ⟨second, hq, -⟩
    · exact .first hp (.single hq)
    · exact .first hp (.single hq)

theorem one_by_one_rowFrom {rest : List (Parser S α)} {used : Used} {o : Outcome (List α)}
    (h : Run.rowFrom start ctx (rest.map fun p => G.run input fuel p) pos used state =
      .done o after) :
    G.OneByOne input state.memo (G.enteredRow input fuel start ctx rest pos state) after.memo := by
  induction rest generalizing pos state used o with
  | nil =>
      obtain ⟨-, rfl⟩ := Eval.pure_eq_done.1 h
      exact .none
  | cons p rest ih =>
      rcases Run.rowFrom_cons_eq_done.1 h with ⟨e, hp, -⟩ | ⟨s, middle, hp, others, hrest, -⟩
      · exact .failure hp
      · exact .success hp (ih hrest)

theorem one_by_one_row {parts : List (Parser S α)} {o : Outcome (List α)}
    (h : Run.row (parts.map fun p => G.run input fuel p) pos ctx state = .done o after) :
    G.OneByOne input state.memo (G.enteredRow input fuel pos ctx parts pos state) after.memo := by
  cases parts with
  | nil =>
      obtain ⟨-, rfl⟩ := Eval.pure_eq_done.1 h
      exact .none
  | cons p rest =>
      -- The first part gets the context of the whole, which is the one carried over nothing.
      have hcarried : ctx.carried pos pos = ctx := Context.carried_self ctx pos
      rcases Run.row_cons_eq_done.1 h with ⟨e, hp, -⟩ | ⟨s, middle, hp, others, hrest, -⟩
      · rw [← hcarried] at hp
        exact .failure hp
      · rw [← hcarried] at hp
        exact .success hp (one_by_one_rowFrom hrest)

theorem one_by_one_rounds {rounds : Nat} {o : Outcome (List α)}
    (h : Run.many rounds (G.run input fuel p) pos ctx state = .done o after) :
    G.OneByOne input state.memo (G.enteredRounds input fuel p (rounds + 1) pos ctx state)
      after.memo := by
  induction rounds using Nat.strong_induction_on generalizing pos ctx state o with
  | _ rounds ih =>
    rcases Run.many_eq_done.1 h with
      ⟨e, hp, -⟩ | ⟨s, hp, hs, -⟩ | ⟨s, middle, hp, hs, others, hrest, -⟩
    · exact .failure hp
    · refine .success hp ?_
      rw [if_pos hs]
      exact .none
    -- The rounds behind the first one are a repetition in fewer rounds.
    · obtain ⟨less, _, rfl, hmany⟩ := Run.many_of_manyFrom hrest
      refine .success hp ?_
      rw [if_neg hs]
      exact ih less (Nat.lt_succ_self less) hmany

/-- A memoized parser enters its body or nothing, and stores something behind its body only. -/
theorem one_by_one_memo {kind : S.Kind} {parity : Parity} {key : Key}
    {p : Parser S (S.Value kind)} {o : Outcome (S.Value kind)}
    (h : G.run input (fuel + 1) (.memo kind parity key p) pos ctx state = .done o after) :
    let v : Visit S T := ⟨.memo kind parity key p, fuel + 1, pos, ctx, state⟩
    ∃ table, G.OneByOne input state.memo (G.entered input v) table ∧
      (after.memo = table ∨ ∃ slot entry, G.Stores input v slot entry ∧
        after.memo = MemoTable.insert table slot entry) := by
  intro v
  have hmemo := h
  rw [run_memo] at hmemo
  rcases Run.memo_eq_done.1 hmemo with
    ⟨under, hlookup, hreuse, rfl⟩ | ⟨hmissed, hdepth, -, rfl⟩ | ⟨hmissed, hdepth, hrefresh⟩
  · rw [entered_of_hit hlookup hreuse]
    exact ⟨_, .none, .inl rfl⟩
  · rw [entered_of_missed hmissed, if_neg fun h => Nat.not_lt.2 h.1 hdepth]
    exact ⟨_, .none, .inl rfl⟩
  · obtain ⟨hlimit, fresh, middle, hbody, hkeep⟩ := Run.refresh_eq_done.1 hrefresh
    obtain ⟨rfl, rfl⟩ := Prod.mk.inj hkeep
    rw [entered_of_missed hmissed, if_pos ⟨hdepth, hlimit⟩]
    exact ⟨_, .single hbody, .inr ⟨_, _, .memo hmissed hdepth h, Run.keep_snd_memo⟩⟩

end OneByOne

/-- What a visit enters that finishes, is entered one after the other.  Only a memoized parser
changes the table itself, by what it stores at the end. -/
theorem one_by_one {v : Visit S T} (hcomposed : v.parser.Composed) {o : Outcome v.α}
    {after : State S T} (h : G.visit input v = .done o after) :
    ∃ table, G.OneByOne input v.state.memo (G.entered input v) table ∧
      (after.memo = table ∨ ∃ slot entry, G.Stores input v slot entry ∧
        after.memo = MemoTable.insert table slot entry) := by
  obtain ⟨parser, fuel, pos, ctx, state⟩ := v
  cases fuel with
  | zero => cases h
  | succ fuel =>
      replace h : G.run input (fuel + 1) parser pos ctx state = .done o after := h
      cases parser with
      | unit | fail | literal | token | find | all | eof | scan =>
          obtain ⟨-, rfl⟩ := Eval.pure_eq_done.1 h
          exact ⟨_, .none, .inl rfl⟩
      | custom f => exact hcomposed.elim
      | count what p =>
          have hp : G.run input (fuel + 1) p pos ctx (state.count what) = .done o after := h
          exact ⟨_, .single hp, .inl rfl⟩
      | tryMap f p =>
          rw [run_tryMap] at h
          rcases Run.tryMap_eq_done.1 h with ⟨e, hp, -⟩ | ⟨s, value, hp, -, -⟩
          · exact ⟨_, .single hp, .inl rfl⟩
          · exact ⟨_, .single hp, .inl rfl⟩
      | zipWith f p q =>
          rw [run_zipWith] at h
          rcases Run.zipWith_eq_done.1 h with ⟨e, hp, -⟩ | ⟨s, middle, hp, second, hq, -⟩
          · exact ⟨_, .failure hp, .inl rfl⟩
          · exact ⟨_, .success hp (.single hq), .inl rfl⟩
      | bind p f =>
          rw [run_bind] at h
          rcases Run.bind_eq_done.1 h with ⟨e, hp, -⟩ | ⟨s, middle, hp, second, hq, -⟩
          · exact ⟨_, .failure hp, .inl rfl⟩
          · exact ⟨_, .success hp (.single hq), .inl rfl⟩
      | alt p q =>
          rw [run_alt] at h
          exact ⟨_, one_by_one_alt h, .inl rfl⟩
      | label name p =>
          rw [run_label] at h
          obtain ⟨_, hp, -⟩ := Run.label_eq_done.1 h
          exact ⟨_, .single hp, .inl rfl⟩
      | commit p =>
          rw [run_commit] at h
          obtain ⟨_, hp, -⟩ := Run.commit_eq_done.1 h
          exact ⟨_, .single hp, .inl rfl⟩
      | look p =>
          rw [run_look] at h
          obtain ⟨_, hp, -⟩ := Run.look_eq_done.1 h
          exact ⟨_, .single hp, .inl rfl⟩
      | row count part =>
          rw [run_row] at h
          exact ⟨_, one_by_one_row h, .inl rfl⟩
      | many p =>
          rw [run_many] at h
          exact ⟨_, one_by_one_rounds h, .inl rfl⟩
      | memo kind parity key p => exact one_by_one_memo h
      | ref rule =>
          rw [run_ref] at h
          obtain ⟨body, hdefine, hbody⟩ := call_rule_eq_done.1 h
          simp only [entered, hdefine]
          exact ⟨_, .single hbody, .inl rfl⟩
      | delay cell rule =>
          rw [run_delay] at h
          obtain ⟨body, next, hfill, hbody⟩ := call_copy_eq_done.1 h
          obtain ⟨-, hmemo⟩ := fill_eq_ok hfill
          simp only [entered, hfill, ← hmemo]
          exact ⟨_, .single hbody, .inl rfl⟩

/-! ## All visits of a run -/

variable (G input) in
/-- Entering ends, since it takes fuel or goes on with a part. -/
theorem wellFounded_enters : WellFounded fun w v : Visit S T => G.Enters input v w :=
  ⟨fun v => visit_induction G input (fun _ ih => .intro _ ih) v⟩

variable (G input) in
/-- A visit and all that are made in its course, each one before those that it enters. -/
def invocations (v : Visit S T) : List (Visit S T) :=
  v :: (G.entered input v).attach.flatMap fun ⟨w, _⟩ => invocations w
termination_by (G.wellFounded_enters input).wrap v
decreasing_by exact enters_of_mem ‹_›

theorem invocations_eq (v : Visit S T) :
    G.invocations input v = v :: (G.entered input v).flatMap (G.invocations input) := by
  rw [invocations, List.flatMap_subtype (fun _ _ => rfl), List.unattach_attach]

/-- Whatever is listed is visited. -/
theorem visits_of_mem {w : Visit S T} :
    ∀ v : Visit S T, w ∈ G.invocations input v → G.Visits input v w := by
  refine visit_induction G input fun v ih h => ?_
  rw [invocations_eq] at h
  rcases List.mem_cons.1 h with rfl | h
  · exact .refl
  · obtain ⟨u, hu, hw⟩ := List.mem_flatMap.1 h
    have henters := enters_of_mem hu
    exact .head henters (ih u henters hw)

/-- If all that is visited finishes, then all of it is listed. -/
theorem mem_invocations_iff {root w : Visit S T}
    (hfinish : ∀ v, G.Visits input root v → ∃ o after, G.visit input v = .done o after) :
    w ∈ G.invocations input root ↔ G.Visits input root w := by
  refine ⟨visits_of_mem root, fun h => ?_⟩
  induction h using Relation.ReflTransGen.head_induction_on with
  | refl =>
      rw [invocations_eq]
      exact List.mem_cons_self
  | @head v u henters _ ih =>
      obtain ⟨o, after, hrun⟩ := hfinish v .refl
      have hlisted : u ∈ G.entered input v := (mem_entered_iff hrun).2 henters
      rw [invocations_eq]
      exact List.mem_cons_of_mem _
        (List.mem_flatMap.2 ⟨u, hlisted, ih fun v hv => hfinish v (.head henters hv)⟩)

end Grammar

end LeftRec
