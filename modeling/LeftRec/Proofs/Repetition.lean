import Mathlib.Logic.Equiv.Defs
import LeftRec.Memo.Ordered
import LeftRec.Proofs.Course
import LeftRec.Proofs.Recursion
import LeftRec.Proofs.Visits
import LeftRec.Samples.Text

/-!
# Repetition — a loop is its recursive definition

Repeating a parser is a loop that forgets every used set but the first and empties the context once
something was consumed.  The same comes of a rule that runs the parser and then itself, or nothing:
sequences and choices forget and empty alike at every level.  The two differ where a repetition
consumes nothing, which ends the loop.
-/

namespace LeftRec

variable {S : Signature} {T : Type → Type} {α β : Type}

/-! ## One round of the loop -/

/-- What a repetition comes to from its first round and what the others come to. -/
def Outcome.preceded (s : Success α) (rest : Outcome (List α)) : Outcome (List α) :=
  (rest.map (s.value :: ·)).withUsed s.used

namespace Run

variable {p : Run S T α} {rounds pos : Nat} {ctx : Context} {state after : State S T}

/-- Where used sets do not matter, the rounds after the first one are a repetition of their own. -/
theorem preceded_manyFrom (s : Success α) (p : Run S T α) (rounds pos : Nat) :
    Outcome.preceded s <$> manyFrom p (rounds + 1) pos =
      Outcome.preceded s <$> many rounds p pos ∅ := by
  simp only [manyFrom, many, map_bind]
  refine congrArg _ (funext fun first => ?_)
  cases first with
  | failure e =>
      cases he : e.isFatal with
      | true => simp [he]
      | false => simp [he, Outcome.preceded, Outcome.yield, Outcome.map, Outcome.withUsed]
  | success s' =>
      by_cases hs : s'.pos = pos
      · simp [hs, Outcome.preceded, Outcome.yield, Outcome.map, Outcome.withUsed]
      · simp only [if_neg hs, Functor.map_map]
        refine congrArg (· <$> _) (funext fun others => ?_)
        cases others <;> rfl

/-- Run a parser once, and go on if that consumed something. -/
def round (p : Run S T α) (again : Nat → Eval (State S T) (Outcome (List α))) :
    Run S T (List α) := fun pos ctx => do
  match ← p pos ctx with
  | .failure e =>
      pure (if e.isFatal then .failure e else .success { value := [], pos, used := e.used })
  | .success s =>
      if s.pos = pos then pure (.success { value := [s.value], pos, used := s.used })
      else Outcome.preceded s <$> again s.pos

theorem many_zero (p : Run S T α) : many 0 p = round p fun _ => Eval.exhausted := rfl

theorem many_succ (rounds : Nat) (p : Run S T α) :
    many (rounds + 1) p = round p fun pos => many rounds p pos ∅ := by
  funext pos ctx
  refine congrArg _ (funext fun first => ?_)
  cases first with
  | failure e => rfl
  | success s =>
      dsimp only
      rw [← preceded_manyFrom]
      rfl

theorem many_of_success {s : Success α} {middle : State S T}
    (hfirst : p pos ctx state = .done (.success s) middle) (hmoved : s.pos ≠ pos) :
    many (rounds + 1) p pos ctx state =
      (Outcome.preceded s <$> many rounds p s.pos ∅) middle := by
  rw [many_succ, round, Eval.bind_apply, hfirst]
  simp only [if_neg hmoved]

/-- With more known of the parser and of what follows, no less is known of a round. -/
theorem round_le {p p' : Run S T α} {again again' : Nat → Eval (State S T) (Outcome (List α))}
    {pos : Nat} {ctx : Context} {state : State S T}
    (hp : (p pos ctx state).Le (p' pos ctx state))
    (hagain : ∀ s middle, p' pos ctx state = .done (.success s) middle → s.pos ≠ pos →
      (again s.pos middle).Le (again' s.pos middle)) :
    (round p again pos ctx state).Le (round p' again' pos ctx state) := by
  unfold round
  rw [Eval.bind_apply, Eval.bind_apply]
  rcases hp with hp | hp
  · rw [hp]
    exact .inl rfl
  · rw [hp]
    cases hfirst : p' pos ctx state with
    | exhausted => exact .inl rfl
    | stopped fault next => exact .inr rfl
    | done first middle =>
        cases first with
        | failure e => exact .inr rfl
        | success s =>
            dsimp only
            by_cases hs : s.pos = pos
            · rw [if_pos hs, if_pos hs]
              exact .inr rfl
            · rw [if_neg hs, if_neg hs, Eval.map_apply, Eval.map_apply]
              rcases hagain s middle hfirst hs with hrest | hrest
              · rw [hrest]
                exact .inl rfl
              · rw [hrest]
                exact .inr rfl

/-! ## One round of the recursion -/

section Recursion

variable (join : α → β → β) (last : β)

/-- The parser and then `again`, or nothing. -/
def recursion (p : Run S T α) (again : Run S T β) : Run S T β :=
  alt (bind p fun a => tryMap (fun b => .ok (join a b)) again) fun pos _ => pure (.yield last pos)

variable {join last} {p : Run S T α} {again : Run S T β} {pos : Nat} {ctx : Context}
variable {state after : State S T}

/-- A failure that is not fatal is replaced by nothing. -/
theorem isFatal_of_recursion {e : Failure}
    (h : recursion join last p again pos ctx state = .done (.failure e) after) :
    e.isFatal = true := by
  rcases alt_eq_done.1 h with ⟨s, -, ho⟩ | ⟨e', -, he, ho⟩ | ⟨e', middle, -, -, hlast⟩
  · cases ho
  · cases ho
    exact he
  · rcases hlast with ⟨s, -, ho⟩ | ⟨second, hlast, -⟩
    · cases ho
    · cases hlast

/-- Seen as lists, the recursion is a round of the loop where the parser consumes something. -/
theorem map_recursion (lists : List α ≃ β)
    (hmoves : ∀ s middle, p pos ctx state = .done (.success s) middle → pos < s.pos)
    (hagain : ∀ s middle o after, p pos ctx state = .done (.success s) middle →
      again s.pos ∅ middle = .done o after →
        s.pos ≤ o.pos ∧ ∀ e, o = .failure e → e.isFatal = true) :
    (Outcome.map lists.symm <$> recursion (fun a b => lists (a :: lists.symm b)) (lists []) p again
        pos ctx) state =
      round p (fun stop => Outcome.map lists.symm <$> again stop ∅) pos ctx state := by
  unfold recursion alt bind round
  rw [Eval.map_apply, Eval.bind_apply, Eval.bind_apply, Eval.bind_apply]
  cases hp : p pos ctx state with
  | exhausted => rfl
  | stopped fault next => rfl
  | done first middle =>
      cases first with
      | failure e =>
          cases he : e.isFatal with
          | true => simp [he, Outcome.map]
          | false => simp [he, Outcome.map, Outcome.yield, Used.union_empty]
      | success s =>
          have hne : pos ≠ s.pos := Nat.ne_of_lt (hmoves s middle hp)
          have hcarried : ctx.carried pos s.pos = ∅ := if_neg hne
          simp only [hcarried, if_neg hne.symm, tryMap, Eval.map_apply, Eval.bind_apply]
          cases hrest : again s.pos ∅ middle with
          | exhausted => rfl
          | stopped fault next => rfl
          | done o after =>
              obtain ⟨hle, hfatal⟩ := hagain s middle o after hp hrest
              have hmoved := hmoves s middle hp
              -- The whole moved on, so the first part's used set is kept.
              have hused : Used.sequenced pos o.pos s.used o.used = s.used :=
                Used.sequenced_of_ne (by omega) _ _
              cases o with
              | failure e =>
                  have he : ({ e with used := s.used } : Failure).isFatal = true := hfatal e rfl
                  simp only [Eval.pure_apply, Outcome.after, hused, Outcome.withUsed, he, if_true,
                    Outcome.map, Outcome.preceded]
              | success s' =>
                  show Result.done (Outcome.success
                    ⟨lists.symm (lists (s.value :: lists.symm s'.value)), s'.pos,
                      Used.sequenced pos s'.pos s.used s'.used⟩) after = _
                  have hsame : Used.sequenced pos s'.pos s.used s'.used = s.used := hused
                  rw [hsame, Equiv.symm_apply_apply]
                  rfl

end Recursion

end Run

/-! ## Repetitions that consume something -/

/-- A rule's definition that repeats a parser by running it and then the rule again, or nothing. -/
def Parser.repetition {rule : S.Rule} (lists : List α ≃ S.Value (S.kind rule)) (p : Parser S α) :
    Parser S (S.Value (S.kind rule)) :=
  .alt (.bind p fun a => (Parser.ref rule).map fun rest => lists (a :: lists.symm rest))
    (.unit (lists []))

namespace Grammar

variable [MemoTable T] (G : Grammar S) (input : Input S.Token)

/-- From one place to another the parser was repeated and consumed something each time, with the
given values. -/
inductive Repeats (p : Parser S α) :
    Nat → Context → State S T → List α → Nat → Context → State S T → Prop
  | none {pos : Nat} {ctx : Context} {state : State S T} : Repeats p pos ctx state [] pos ctx state
  | more {fuel pos stop : Nat} {ctx under : Context} {state middle after : State S T}
      {s : Success α} {values : List α} :
      G.run input fuel p pos ctx state = .done (.success s) middle → s.pos ≠ pos →
        Repeats p s.pos ∅ middle values stop under after →
          Repeats p pos ctx state (s.value :: values) stop under after

/-- No repetition of the parser succeeds without consuming anything. -/
def EachConsumes (p : Parser S α) (pos : Nat) (ctx : Context) (state : State S T) : Prop :=
  ∀ ⦃values stop under middle fuel s after⦄,
    G.Repeats input p pos ctx state values stop under middle →
      G.run input fuel p stop under middle = .done (.success s) after → s.pos ≠ stop

variable {G input} {p : Parser S α} {rule : S.Rule} {lists : List α ≃ S.Value (S.kind rule)}
variable {fuel pos stop : Nat} {ctx under : Context} {state middle after : State S T}

/-- After a repetition that consumed something the others do so as well. -/
theorem EachConsumes.next (h : G.EachConsumes input p pos ctx state) {s : Success α}
    (hrun : G.run input fuel p pos ctx state = .done (.success s) middle) :
    G.EachConsumes input p s.pos ∅ middle := by
  intro values stop under last fuel' s' after hrepeats hlast
  exact h (.more hrun (h .none hrun) hrepeats) hlast

/-- It is enough to follow a run, which comes to one outcome only. -/
theorem EachConsumes.of_run {first : Outcome α}
    (hrun : G.run input fuel p pos ctx state = .done first middle)
    (hnext : ∀ s, first = .success s → s.pos ≠ pos ∧ G.EachConsumes input p s.pos ∅ middle) :
    G.EachConsumes input p pos ctx state := by
  intro values stop under last fuel' s after hrepeats hlast
  cases hrepeats with
  | none =>
      obtain ⟨hsame, -⟩ := run_done_unique hrun hlast
      exact (hnext s hsame).1
  | more hfirst _ hrest =>
      obtain ⟨hsame, rfl⟩ := run_done_unique hrun hfirst
      exact (hnext _ hsame).2 hrest hlast

theorem run_repetition (hrule : G.define rule = some (Parser.repetition lists p)) (fuel : Nat) :
    (G.run input (fuel + 2) (.ref rule) : Run S T _) =
      Run.recursion (fun a rest => lists (a :: lists.symm rest)) (lists [])
        (G.run input (fuel + 1) p) (G.run input (fuel + 1) (.ref rule)) := by
  rw [run_ref, call_rule hrule, Parser.repetition, run_alt, run_bind]
  simp only [Parser.map, run_tryMap]
  rfl

theorem isFatal_of_repetition (hrule : G.define rule = some (Parser.repetition lists p))
    {e : Failure} (h : G.run input fuel (.ref rule) pos ctx state = .done (.failure e) after) :
    e.isFatal = true := by
  match fuel with
  | 0 => cases h
  | 1 =>
      rw [run_ref, call_rule hrule] at h
      cases h
  | fuel + 2 =>
      rw [run_repetition hrule] at h
      exact Run.isFatal_of_recursion h

variable [LawfulMemoTable T]

/-- The recursive rule does not go back. -/
theorem along_repetition (hrule : G.define rule = some (Parser.repetition lists p))
    (hp : G.Built Parser.Offered p) (fuel : Nat) :
    (G.run input fuel (.ref rule) : Run S T _).Along (.ahead input) := by
  match fuel with
  | 0 => exact fun _ _ _ _ _ _ _ h => nomatch h
  | 1 =>
      rw [run_ref, call_rule hrule]
      exact fun _ _ _ _ _ _ _ h => nomatch h
  | fuel + 2 =>
      have hagain := along_repetition hrule hp (fuel + 1)
      have hfirst : (G.run input (fuel + 1) p : Run S T α).Along (.ahead input) := along_run hp _
      rw [run_repetition hrule]
      exact (hfirst.bind fun a => hagain.tryMap _).alt
        (Run.along_pure fun pos _ => Outcome.Along.here _ rfl)

/-- Seen as lists, the recursive rule is a round of the loop. -/
theorem map_repetition (hrule : G.define rule = some (Parser.repetition lists p))
    (hp : G.Built Parser.Offered p) (fuel : Nat) (hstate : state.Along (.ahead input))
    (hconsumes : G.EachConsumes input p pos ctx state) :
    (Outcome.map lists.symm <$> G.run input (fuel + 2) (.ref rule) pos ctx) state =
      Run.round (G.run input (fuel + 1) p)
        (fun stop => Outcome.map lists.symm <$> G.run input (fuel + 1) (.ref rule) stop ∅)
        pos ctx state := by
  rw [run_repetition hrule]
  refine Run.map_recursion lists (fun s middle hrun => ?_) fun s middle o after hrun hrest => ?_
  · obtain ⟨hle, -⟩ := along_run hp _ trivial hstate hrun
    exact Nat.lt_of_le_of_ne hle (hconsumes .none hrun).symm
  · obtain ⟨-, hmiddle⟩ := along_run hp _ trivial hstate hrun
    obtain ⟨hle, -⟩ := along_repetition hrule hp _ trivial hmiddle hrest
    refine ⟨hle, fun e ho => ?_⟩
    subst ho
    exact isFatal_of_repetition hrule hrest

/-! ## The loop and the recursion -/

/-- With as many levels as the loop has rounds, the recursion comes to what the loop comes to. -/
theorem many_le_repetition (hrule : G.define rule = some (Parser.repetition lists p))
    (hp : G.Built Parser.Offered p) (fuel rounds : Nat) (hstate : state.Along (.ahead input))
    (hconsumes : G.EachConsumes input p pos ctx state) :
    (Run.many rounds (G.run input fuel p) pos ctx state).Le
      ((Outcome.map lists.symm <$> G.run input (fuel + rounds + 2) (.ref rule) pos ctx) state) := by
  rw [map_repetition hrule hp _ hstate hconsumes]
  -- The recursion has less fuel on each level, but never less than the loop.
  have hmore (rounds : Nat) : (G.run input fuel p pos ctx state).Le
      (G.run input (fuel + rounds + 1) p pos ctx state) := run_le (by omega) p pos ctx state
  induction rounds generalizing pos ctx state with
  | zero =>
      rw [Run.many_zero]
      exact Run.round_le (hmore 0) fun s middle _ _ => Eval.exhausted_le _ _
  | succ rounds ih =>
      rw [Run.many_succ]
      refine Run.round_le (hmore (rounds + 1)) fun s middle hrun hmoved => ?_
      obtain ⟨-, hmiddle⟩ := along_run hp _ trivial hstate hrun
      have hnext := hconsumes.next hrun
      have hrest := ih hmiddle hnext fun rounds => run_le (by omega) p _ _ _
      rw [← map_repetition hrule hp _ hmiddle hnext] at hrest
      exact hrest

/-- With one round for each level of the recursion, the loop comes to what the recursion comes
to. -/
theorem repetition_le_many (hrule : G.define rule = some (Parser.repetition lists p))
    (hp : G.Built Parser.Offered p) {rounds fuel : Nat} (hfuel : rounds ≤ fuel)
    (hstate : state.Along (.ahead input)) (hconsumes : G.EachConsumes input p pos ctx state) :
    ((Outcome.map lists.symm <$> G.run input (rounds + 1) (.ref rule) pos ctx) state).Le
      (Run.many rounds (G.run input fuel p) pos ctx state) := by
  induction rounds generalizing pos ctx state with
  | zero =>
      rw [run_ref, call_rule hrule]
      exact .inl rfl
  | succ rounds ih =>
      rw [map_repetition hrule hp _ hstate hconsumes, Run.many_succ]
      refine Run.round_le (run_le hfuel p pos ctx state) fun s middle hrun _ => ?_
      obtain ⟨-, hmiddle⟩ := along_run hp _ trivial hstate hrun
      exact ih (Nat.le_of_succ_le hfuel) hmiddle (hconsumes.next hrun)

omit [LawfulMemoTable T] in
/-- A repetition that consumes nothing is the last one. -/
theorem many_of_repeats {values : List α} {s : Success α}
    (hrepeats : G.Repeats input p pos ctx state values stop under middle)
    (hrun : G.run input fuel p stop under middle = .done (.success s) after)
    (hstill : s.pos = stop) :
    ∃ rounds used, Run.many rounds (G.run input rounds p) pos ctx state =
      .done (.success ⟨values ++ [s.value], stop, used⟩) after := by
  -- The induction is on the repetitions before the last one.
  induction hrepeats with
  | @none pos ctx state =>
      refine ⟨fuel, s.used, ?_⟩
      have hround (again : Nat → Eval (State S T) (Outcome (List α))) :
          Run.round (G.run input fuel p) again pos ctx state =
            .done (.success ⟨[s.value], pos, s.used⟩) after := by
        rw [Run.round, Eval.bind_apply, hrun]
        simp only [hstill, if_true, Eval.pure_apply]
      cases fuel with
      | zero => cases hrun
      | succ fuel =>
          rw [Run.many_succ]
          exact hround _
  | @more fuel' pos stop ctx under state next middle first values hfirst hmoved _ ih =>
      obtain ⟨rounds, used, hmany⟩ := ih hrun hstill
      -- The larger of both amounts of fuel is enough for the first round and for the others.
      refine ⟨max fuel' rounds + 1, first.used, ?_⟩
      have hfirst' := (run_le (show fuel' ≤ max fuel' rounds + 1 by omega) p pos ctx).done hfirst
      have hrest := (Run.many_le (run_le (show rounds ≤ max fuel' rounds + 1 by omega) p)
        (Nat.le_max_right fuel' rounds) first.pos ∅).done hmany
      rw [Run.many_succ, Run.round, Eval.bind_apply, hfirst']
      simp only [if_neg hmoved, Eval.map_apply]
      rw [hrest]
      rfl

/-- A loop is its recursive definition.  If each repetition of a parser consumes something, then
repeating it comes to whatever the rule comes to that runs it and then itself, or nothing: the same
values, position and used set, the same failure or the same fault, and the same state.  If a
repetition consumes nothing, then the loop succeeds right there, with the values up to and
including that one. -/
theorem many_is_recursive {rule : S.Rule} {lists : List α ≃ S.Value (S.kind rule)} {p : Parser S α}
    (hrule : G.define rule = some (Parser.repetition lists p)) (hp : G.Built Parser.Offered p)
    (pos : Nat) (ctx : Context) {state : State S T} (hstate : state.Along (.ahead input)) :
    (G.EachConsumes input p pos ctx state →
      ∀ r : Result (State S T) (Outcome (List α)), r ≠ .exhausted →
        ((∃ fuel, G.run input fuel (.many p) pos ctx state = r) ↔
          ∃ fuel, (Outcome.map lists.symm <$> G.run input fuel (.ref rule) pos ctx) state = r)) ∧
    ∀ values stop under middle fuel s after,
      G.Repeats input p pos ctx state values stop under middle →
        G.run input fuel p stop under middle = .done (.success s) after → s.pos = stop →
          ∃ fuel used, G.run input fuel (.many p) pos ctx state =
            .done (.success ⟨values ++ [s.value], stop, used⟩) after := by
  refine ⟨fun hconsumes r hr => ⟨?_, ?_⟩, ?_⟩
  · rintro ⟨fuel, hmany⟩
    cases fuel with
    | zero => exact absurd hmany.symm hr
    | succ fuel =>
        rw [run_many] at hmany
        refine ⟨_, ((many_le_repetition hrule hp (fuel + 1) fuel hstate hconsumes).resolve_left
          fun h => hr ?_).symm.trans hmany⟩
        rw [← hmany, h]
  · rintro ⟨fuel, hrecursion⟩
    cases fuel with
    | zero => exact absurd hrecursion.symm hr
    | succ fuel =>
        refine ⟨fuel + 1, ?_⟩
        rw [run_many]
        refine ((repetition_le_many hrule hp (Nat.le_succ fuel) hstate hconsumes).resolve_left
          fun h => hr ?_).symm.trans hrecursion
        rw [← hrecursion, h]
  · intro values stop under middle fuel s after hrepeats hrun hstill
    obtain ⟨rounds, used, hmany⟩ := many_of_repeats hrepeats hrun hstill
    refine ⟨rounds + 1, used, ?_⟩
    rw [run_many]
    exact (Run.many_le (run_le (Nat.le_succ rounds) p) (Nat.le_refl rounds) pos ctx).done hmany

/-! ### Words of a left-recursive rule -/

abbrev WordRules : Signature := TextSignature Bool (List String)

/-- The pieces of an x and of the letters y behind it, as a memoized rule finds them. -/
def pieces : Parser WordRules (List String) :=
  .ref (S := WordRules) true

/-- One rule is `e = e "y" | "x"`, the other one repeats its words. -/
def words : Grammar WordRules where
  define
    | true => some (.memo (S := WordRules) () .even (.id 0)
        (((pieces.seq (.text "y")).map fun (e, y) => e ++ [y]) ||| (Parser.text "x").map ([·])))
    | false => some (@Parser.repetition WordRules String false (Equiv.refl (List String))
        (pieces.map String.join))

/-- Two words and then the end of the text. -/
theorem many_is_recursive_words :
    ∃ fuel fuel' after,
      words.run (T := OrderedTable) (Input.ofText "xyx") fuel (.many (pieces.map String.join)) 0 ∅
        .new = .done (.success ⟨["xy", "x"], 3, .single (.id 0)⟩) after ∧
      words.run (Input.ofText "xyx") fuel' (.ref (S := WordRules) false) 0 ∅ .new =
        .done (.success ⟨["xy", "x"], 3, .single (.id 0)⟩) after := by
  let word : Parser WordRules String := pieces.map String.join
  let run (pos : Nat) : State WordRules OrderedTable → Result _ _ :=
    words.run (Input.ofText "xyx") 20 word pos ∅
  have hp : words.Built Parser.Offered word := by
    refine .of_all ⟨trivial, trivial⟩ (fun rule body hdefine => ?_)
      fun rule workshop body hcopy => ?_
    · cases rule with
      | true =>
          obtain rfl := Option.some.inj hdefine
          exact ⟨trivial, trivial, ⟨trivial, trivial, trivial, trivial, trivial⟩, trivial, trivial,
            trivial⟩
      | false =>
          obtain rfl := Option.some.inj hdefine
          exact ⟨trivial, ⟨trivial, ⟨trivial, trivial⟩, fun _ => ⟨trivial, trivial⟩⟩, trivial⟩
    · cases hcopy
  -- The words end at 2 and at 3, and there is none behind them.
  have hruns : (run 0 .new).finishedWith (fun o state => decide (o.pos = 2) &&
      (run 2 state).finishedWith fun o state => decide (o.pos = 3) &&
        (run 3 state).finishedWith fun o _ => !o.isSuccess) = true := by
    decide +kernel
  obtain ⟨first, state, hfirst, hrest⟩ := Result.exists_of_finishedWith hruns
  obtain ⟨hone, hrest⟩ := Bool.and_eq_true_iff.1 hrest
  obtain ⟨second, state', hsecond, hrest⟩ := Result.exists_of_finishedWith hrest
  obtain ⟨htwo, hrest⟩ := Bool.and_eq_true_iff.1 hrest
  obtain ⟨third, state'', hthird, hnone⟩ := Result.exists_of_finishedWith hrest
  have hconsumes : words.EachConsumes (Input.ofText "xyx") word 0 ∅
      (.new : State WordRules OrderedTable) := by
    refine .of_run hfirst fun s hs => ?_
    have hpos : s.pos = 2 := by simpa [hs] using hone
    rw [hpos]
    refine ⟨by decide, .of_run hsecond fun s' hs' => ?_⟩
    have hpos' : s'.pos = 3 := by simpa [hs'] using htwo
    rw [hpos']
    refine ⟨by decide, .of_run hthird fun s'' hs'' => ?_⟩
    rw [hs''] at hnone
    cases hnone
  obtain ⟨after, hmany⟩ : ∃ after : State WordRules OrderedTable,
      words.run (Input.ofText "xyx") 20 (.many word) 0 ∅ .new =
        .done (.success ⟨["xy", "x"], 3, .single (.id 0)⟩) after :=
    Result.exists_of_finished (by decide +kernel)
  have hrule : words.define false =
      some (@Parser.repetition WordRules String false (Equiv.refl (List String)) word) := rfl
  obtain ⟨hsame, -⟩ := many_is_recursive hrule hp 0 ∅
    ((State.noEntries_new (S := WordRules) (T := OrderedTable)).along (.ahead (Input.ofText "xyx")))
  obtain ⟨fuel, hrule⟩ := (hsame hconsumes (.done _ after) nofun).1 ⟨20, hmany⟩
  obtain ⟨o, hrun, ho⟩ := Eval.map_eq_done.1 hrule
  refine ⟨20, fuel, after, hmany, ?_⟩
  cases o with
  | failure e => cases ho
  | success s => exact hrun.trans (congrArg (Result.done · after) ho.symm)

end Grammar

end LeftRec
