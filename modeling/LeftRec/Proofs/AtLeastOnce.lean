import LeftRec.Proofs.Binding
import LeftRec.Proofs.Repetition

/-!
# At least once — repetitions that must not be empty

A parser that is repeated at least once is run and then repeated as often as it may be.  Where the
first repetition consumes something, that comes to what the loop comes to: the second run of the
parser has the empty context of a later round, and its used set does not matter.  Where the first
repetition consumes nothing, the loop ends, but a parser that is repeated at least once is run
again, and so its first repetition need not be the last one.
-/

namespace LeftRec

variable {S : Signature} {T : Type → Type} {α β γ : Type}

/-- Who knows more of a result that is known knows the same. -/
theorem Result.Le.eq_of_ne {σ α : Type} {r s t : Result σ α} (hle : r.Le s) (hr : r = t)
    (ht : t ≠ .exhausted) : s = t := by
  rcases hle with h | h
  · exact absurd (hr.symm.trans h) ht
  · exact h.symm.trans hr

/-- What a sequence comes to from its first part, which began at `start`, and what the second part
comes to. -/
def Outcome.combined (f : α → β → γ) (start : Nat) (s : Success α) (second : Outcome β) :
    Outcome γ :=
  (second.map (f s.value)).after start s.used

/-- A sequence that consumed something keeps the used set of its first part. -/
theorem Outcome.combined_of_ne {start : Nat} {s : Success α} {rest : Outcome (List α)}
    (h : start ≠ rest.pos) : rest.combined (· :: ·) start s = Outcome.preceded s rest := by
  have hpos : (rest.map (s.value :: ·)).pos = rest.pos := by cases rest <;> rfl
  rw [combined, after, preceded, hpos, Used.sequenced_of_ne h]

namespace Run

variable {p : Run S T α} {pos : Nat} {ctx : Context} {state middle : State S T}
variable {s : Success α}

theorem zipWith_of_success (f : α → β → γ) (q : Run S T β)
    (hfirst : p pos ctx state = .done (.success s) middle) :
    zipWith f p q pos ctx state =
      (Outcome.combined f pos s <$> q s.pos (ctx.carried pos s.pos)) middle := by
  unfold zipWith
  rw [Eval.bind_apply, hfirst]
  rfl

end Run

namespace Grammar

variable [MemoTable T] {G : Grammar S} {input : Input S.Token}
variable {p : Parser S α} {fuel pos stop : Nat} {ctx under : Context}
variable {state middle after : State S T} {s : Success α}

/-! ## What follows a first repetition -/

/-- After its first part a sequence comes to what its second part comes to. -/
theorem zipWith_comes_iff (f : α → β → γ) (q : Parser S β)
    (hfirst : G.run input fuel p pos ctx state = .done (.success s) middle)
    {r : Result (State S T) (Outcome γ)} (hr : r ≠ .exhausted) :
    (∃ fuel, G.run input fuel (.zipWith f p q) pos ctx state = r) ↔
      ∃ fuel, (Outcome.combined f pos s <$> G.run input fuel q s.pos (ctx.carried pos s.pos))
        middle = r := by
  have hboth (more : Nat) : G.run input (max fuel more) (.zipWith f p q) pos ctx state =
      (Outcome.combined f pos s <$> G.run input (max fuel more) q s.pos
        (ctx.carried pos s.pos)) middle := by
    rw [run_zipWith]
    exact Run.zipWith_of_success f _ ((run_le (Nat.le_max_left fuel more) p pos ctx).done hfirst)
  constructor
  · rintro ⟨more, hmore⟩
    have hle : (G.run input more (.zipWith f p q) pos ctx state).Le
        (G.run input (max fuel more) (.zipWith f p q) pos ctx state) :=
      run_le (Nat.le_max_right fuel more) _ pos ctx state
    exact ⟨max fuel more, (hboth more).symm.trans (hle.eq_of_ne hmore hr)⟩
  · rintro ⟨more, hmore⟩
    have hsecond : (G.run input more q : Run S T β).Le (G.run input (max fuel more) q) :=
      run_le (Nat.le_max_right fuel more) q
    have hle := (hsecond s.pos (ctx.carried pos s.pos)).map (Outcome.combined f pos s) middle
    exact ⟨max fuel more, (hboth more).trans (hle.eq_of_ne hmore hr)⟩

/-- After a first repetition that consumed something a loop comes to what the loop behind it comes
to. -/
theorem many_comes_iff (hfirst : G.run input fuel p pos ctx state = .done (.success s) middle)
    (hmoved : s.pos ≠ pos) {r : Result (State S T) (Outcome (List α))} (hr : r ≠ .exhausted) :
    (∃ fuel, G.run input fuel (.many p) pos ctx state = r) ↔
      ∃ fuel, (Outcome.preceded s <$> G.run input fuel (.many p) s.pos ∅) middle = r := by
  -- One more unit of fuel is one more round, the first one.
  have hboth (more : Nat) :
      Run.many (max fuel more + 1) (G.run input (max fuel more + 1) p) pos ctx state =
        (Outcome.preceded s <$> Run.many (max fuel more) (G.run input (max fuel more + 1) p)
          s.pos ∅) middle :=
    Run.many_of_success ((run_le (by omega) p pos ctx).done hfirst) hmoved
  constructor
  · rintro ⟨more, hmore⟩
    have hle : (G.run input more (.many p) pos ctx state).Le
        (Run.many (max fuel more + 1) (G.run input (max fuel more + 1) p) pos ctx state) := by
      cases more with
      | zero => exact .inl rfl
      | succ more =>
          rw [run_many]
          exact Run.many_le (run_le (by omega) p) (by omega) pos ctx state
    refine ⟨max fuel more + 1, ?_⟩
    rw [run_many]
    exact (hboth more).symm.trans (hle.eq_of_ne hmore hr)
  · rintro ⟨more, hmore⟩
    have hle : ((Outcome.preceded s <$> G.run input more (.many p) s.pos ∅) middle).Le
        ((Outcome.preceded s <$> Run.many (max fuel more) (G.run input (max fuel more + 1) p)
          s.pos ∅) middle) := by
      refine Eval.Le.map _ ?_ middle
      cases more with
      | zero => exact Eval.exhausted_le _
      | succ more =>
          rw [run_many]
          exact Run.many_le (run_le (by omega) p) (by omega) s.pos ∅
    refine ⟨max fuel more + 2, ?_⟩
    rw [run_many]
    have hmore' := (hboth more).trans (hle.eq_of_ne hmore hr)
    exact (Run.many_le (run_le (Nat.le_succ _) p) (Nat.le_refl _) pos ctx state).eq_of_ne hmore' hr

/-- Without a first repetition a parser repeated at least once fails, and the loop yields no values
unless the failure is fatal. -/
theorem many1_of_failure {e : Failure}
    (hfirst : G.run input fuel p pos ctx state = .done (.failure e) middle) :
    (∃ fuel, G.run input fuel p.many1 pos ctx state = .done (.failure e) middle) ∧
    ∃ fuel, G.run input fuel (.many p) pos ctx state =
      .done (if e.isFatal then .failure e else .success ⟨[], pos, e.used⟩) middle := by
  refine ⟨⟨fuel, ?_⟩, ⟨fuel, ?_⟩⟩
  · rw [Parser.many1, run_zipWith, Run.zipWith, Eval.bind_apply, hfirst]
    rfl
  · cases fuel with
    | zero => cases hfirst
    | succ fuel =>
        rw [run_many, Run.many, Eval.bind_apply, hfirst]
        rfl

/-! ## At least once and as often as may be -/

variable [LawfulMemoTable T]

/-- A loop does not go back. -/
theorem along_many (hp : G.Built Parser.Offered p) (fuel : Nat) :
    (G.run input fuel (.many p) : Run S T _).Along (.ahead input) := by
  cases fuel with
  | zero => exact fun _ _ _ _ _ _ _ h => nomatch h
  | succ fuel =>
      have hrounds : (G.run input (fuel + 1) p : Run S T α).Along (.ahead input) := along_run hp _
      exact hrounds.many fuel

/-- Where a repetition consumed something, a parser repeated at least once comes to what the loop
comes to. -/
theorem many1_comes_iff (hp : G.Built Parser.Offered p) (hstate : state.Along (.ahead input))
    (hfirst : G.run input fuel p pos ctx state = .done (.success s) middle) (hmoved : s.pos ≠ pos)
    {r : Result (State S T) (Outcome (List α))} (hr : r ≠ .exhausted) :
    (∃ fuel, G.run input fuel p.many1 pos ctx state = r) ↔
      ∃ fuel, G.run input fuel (.many p) pos ctx state = r := by
  obtain ⟨hle, hmiddle⟩ := along_run hp fuel trivial hstate hfirst
  have hcarried : ctx.carried pos s.pos = ∅ := if_neg hmoved.symm
  rw [Parser.many1, zipWith_comes_iff _ _ hfirst hr, many_comes_iff hfirst hmoved hr, hcarried]
  refine exists_congr fun more => ?_
  have hrest : (Outcome.combined (· :: ·) pos s <$> G.run input more (.many p) s.pos ∅) middle =
      (Outcome.preceded s <$> G.run input more (.many p) s.pos ∅) middle := by
    rw [Eval.map_apply, Eval.map_apply]
    cases hmany : G.run input more (.many p) s.pos ∅ middle with
    | exhausted => rfl
    | stopped fault next => rfl
    | done rest after =>
        obtain ⟨hon, -⟩ := along_many hp more trivial hmiddle hmany
        have hfrom : pos ≤ s.pos := hle
        have hto : s.pos ≤ rest.pos := hon
        exact congrArg (Result.done · after) (Outcome.combined_of_ne (by omega))
  rw [hrest]

/-- What a loop comes to that ended with a repetition that consumed nothing.  If it was not the
first one, a parser repeated at least once ends there as well. -/
theorem many1_of_repeats (hp : G.Built Parser.Offered p) (hstate : state.Along (.ahead input))
    {values : List α} (hrepeats : G.Repeats input p pos ctx state values stop under middle)
    (hrun : G.run input fuel p stop under middle = .done (.success s) after)
    (hstill : s.pos = stop) :
    ∃ used,
      (∃ fuel, G.run input fuel (.many p) pos ctx state =
        .done (.success ⟨values ++ [s.value], stop, used⟩) after) ∧
      (values ≠ [] → ∃ fuel, G.run input fuel p.many1 pos ctx state =
        .done (.success ⟨values ++ [s.value], stop, used⟩) after) := by
  obtain ⟨rounds, used, hmany⟩ := many_of_repeats hrepeats hrun hstill
  have hloop : ∃ fuel, G.run input fuel (.many p) pos ctx state =
      .done (.success ⟨values ++ [s.value], stop, used⟩) after := by
    refine ⟨rounds + 1, ?_⟩
    rw [run_many]
    exact (Run.many_le (run_le (Nat.le_succ rounds) p) (Nat.le_refl rounds) pos ctx).done hmany
  refine ⟨used, hloop, fun hvalues => ?_⟩
  cases hrepeats with
  | none => exact absurd rfl hvalues
  | more hfirst hmoved _ =>
      have hdone {o : Outcome (List α)} : Result.done o after ≠ .exhausted := nofun
      exact (many1_comes_iff hp hstate hfirst hmoved hdone).2 hloop

/-- How repeating a parser at least once compares with repeating it as often as may be, by what
comes of the parser itself.  If it fails, so does the former, and the latter yields no values
unless the failure is fatal.  If it consumes something, both come to the same: values, position and
used set, failure or fault, and state.  If it succeeds without consuming anything, then the latter
ends right there with its value, but the former goes on with whatever the latter comes to from
there.  A later repetition that consumes nothing is the last one of both. -/
theorem many1_is_many (hp : G.Built Parser.Offered p) (hstate : state.Along (.ahead input))
    {first : Outcome α} (hfirst : G.run input fuel p pos ctx state = .done first middle) :
    (∀ e, first = .failure e →
      (∃ fuel, G.run input fuel p.many1 pos ctx state = .done (.failure e) middle) ∧
      ∃ fuel, G.run input fuel (.many p) pos ctx state =
        .done (if e.isFatal then .failure e else .success ⟨[], pos, e.used⟩) middle) ∧
    (∀ s, first = .success s → s.pos ≠ pos →
      ∀ r : Result (State S T) (Outcome (List α)), r ≠ .exhausted →
        ((∃ fuel, G.run input fuel p.many1 pos ctx state = r) ↔
          ∃ fuel, G.run input fuel (.many p) pos ctx state = r)) ∧
    (∀ s, first = .success s → s.pos = pos →
      (∃ fuel, G.run input fuel (.many p) pos ctx state =
        .done (.success ⟨[s.value], pos, s.used⟩) middle) ∧
      ∀ r : Result (State S T) (Outcome (List α)), r ≠ .exhausted →
        ((∃ fuel, G.run input fuel p.many1 pos ctx state = r) ↔
          ∃ fuel, ((fun rest => (rest.map (s.value :: ·)).after pos s.used) <$>
            G.run input fuel (.many p) pos ctx) middle = r)) ∧
    ∀ values stop under last fuel s after,
      G.Repeats input p pos ctx state values stop under last →
        G.run input fuel p stop under last = .done (.success s) after → s.pos = stop →
          ∃ used,
            (∃ fuel, G.run input fuel (.many p) pos ctx state =
              .done (.success ⟨values ++ [s.value], stop, used⟩) after) ∧
            (values ≠ [] → ∃ fuel, G.run input fuel p.many1 pos ctx state =
              .done (.success ⟨values ++ [s.value], stop, used⟩) after) := by
  refine ⟨?_, ?_, ?_, ?_⟩
  · rintro e rfl
    exact many1_of_failure hfirst
  · rintro s rfl hmoved r hr
    exact many1_comes_iff hp hstate hfirst hmoved hr
  · rintro s rfl hstill
    refine ⟨?_, fun r hr => ?_⟩
    · refine ⟨fuel, ?_⟩
      cases fuel with
      | zero => cases hfirst
      | succ fuel =>
          rw [run_many, Run.many, Eval.bind_apply, hfirst]
          simp only [hstill, if_true, Eval.pure_apply]
    · have hcomes := zipWith_comes_iff (· :: ·) p.many hfirst hr
      rw [hstill, Context.carried_self] at hcomes
      exact hcomes
  · intro values stop under last fuel s after hrepeats hrun hstill
    exact many1_of_repeats hp hstate hrepeats hrun hstill

/-- A rule that reads all the letters is repeated once, at least or at most. -/
theorem many1_is_many_letters : ∃ fuel after,
    letters.run (T := OrderedTable) (Input.ofText "xx") fuel letter.many1 0 ∅ .new =
      .done (.success ⟨["xx"], 2, .single (.id 0)⟩) after := by
  obtain ⟨middle, hletter⟩ := run_letter
  obtain ⟨after, hmany⟩ : ∃ after : State (TextSignature Unit String) OrderedTable,
      letters.run (Input.ofText "xx") 20 letter.many 0 ∅ .new =
        .done (.success ⟨["xx"], 2, .single (.id 0)⟩) after :=
    Result.exists_of_finished (by decide +kernel)
  have hletters : letters.Built Parser.Offered letter := built_letters trivial
  have hstate : (.new : State (TextSignature Unit String) OrderedTable).Along
      (.ahead (Input.ofText "xx")) := State.noEntries_new.along _
  obtain ⟨-, hmoved, -, -⟩ := many1_is_many hletters hstate hletter
  obtain ⟨fuel, hmany1⟩ :=
    (hmoved _ rfl (by decide) (.done _ after) nofun).2 ⟨20, hmany⟩
  exact ⟨fuel, after, hmany1⟩

/-- A parser that consumes nothing is repeated once as often as may be, and twice at least once. -/
theorem many1_unit_ne :
    let zero : Parser (TextSignature Unit String) Nat := .unit 0
    letters.run (T := OrderedTable) (Input.ofText "") 2 zero.many1 0 ∅ .new =
      .done (.success ⟨[0, 0], 0, ∅⟩) .new ∧
    letters.run (T := OrderedTable) (Input.ofText "") 2 zero.many 0 ∅ .new =
      .done (.success ⟨[0], 0, ∅⟩) .new :=
  ⟨rfl, rfl⟩

end Grammar

end LeftRec
