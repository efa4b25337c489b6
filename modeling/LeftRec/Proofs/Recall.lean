import LeftRec.Evaluate
import LeftRec.Memo.Ordered
import LeftRec.Proofs.ContextMap
import LeftRec.Proofs.Table
import LeftRec.Samples.Subtraction

/-!
# Recall — invoking a memoized parser twice

What a memoized parser came to, it comes to again if nothing else is run in between.  What it took
from the table or stored there is found again, and may be reused under the same context and under
every deeper one.  Where it was curtailed, it is curtailed again.  Nothing is asked of its body,
which may change the table as it likes and is not run a second time.
-/

namespace LeftRec
namespace Run

variable {S : Signature} {T : Type → Type} [MemoTable T]
variable {input : Input S.Token} {kind : S.Kind} {parity : Parity} {key : Key} {pos : Nat}
variable {ctx deeper : Context} {state after : State S T} {o : Outcome (S.Value kind)}
variable {body : Run S T (S.Value kind)}

/-- The parser is curtailed: the table has nothing to reuse, and it has recursed beyond its
bound. -/
def Curtailed (input : Input S.Token) (kind : S.Kind) (key : Key) (pos : Nat) (ctx : Context)
    (state : State S T) : Prop :=
  Missed state kind key pos ctx ∧ depthBound (input.remaining pos) < ctx.depth key

/-- Invoking the parser comes to the outcome and leaves the table alone, whatever its body is. -/
def Recalls (input : Input S.Token) (kind : S.Kind) (parity : Parity) (key : Key) (pos : Nat)
    (ctx : Context) (state : State S T) (o : Outcome (S.Value kind)) : Prop :=
  ∀ body : Run S T (S.Value kind), ∃ after,
    memo input kind parity key body pos ctx state = .done o after ∧ after.memo = state.memo

/-- What the table has and what may be reused is recalled. -/
theorem recalls_of_lookup {under : Context}
    (hlookup : state.lookup kind key pos = some (o, under)) (hunder : under.Le ctx) :
    Recalls input kind parity key pos ctx state o := by
  intro body
  have hreuse : ctx.canReuse under = true := Context.canReuse_iff_le.2 hunder
  exact ⟨_, memo_of_hit hlookup hreuse, rfl⟩

theorem recalls_of_curtailed (h : Curtailed input kind key pos ctx state) :
    Recalls input kind parity key pos ctx state
      (.failure { reason := .curtailment, pos, used := .single key }) := by
  intro body
  obtain ⟨hmissed, hdepth⟩ := h
  refine ⟨state.note (.curtailed key pos (ctx.depth key)), ?_, rfl⟩
  rw [memo_of_missed hmissed, if_pos hdepth]

/-- A parser that is not curtailed leaves its outcome in the table, as one that holds here. -/
theorem exists_lookup_of_memo [LawfulMemoTable T]
    (h : memo input kind parity key body pos ctx state = .done o after)
    (hfree : ¬ Curtailed input kind key pos ctx state) :
    ∃ under, after.lookup kind key pos = some (o, under) ∧ under.Le ctx := by
  rcases memo_eq_done.1 h with
    ⟨under, hlookup, hreuse, rfl⟩ | ⟨hmissed, hdepth, -, -⟩ | ⟨-, -, hrefresh⟩
  · exact ⟨under, hlookup, Context.canReuse_iff_le.1 hreuse⟩
  · exact absurd ⟨hmissed, hdepth⟩ hfree
  · obtain ⟨-, fresh, middle, -, hkeep⟩ := refresh_eq_done.1 hrefresh
    obtain ⟨rfl, rfl⟩ := Prod.mk.inj hkeep
    -- What is kept is stored last, over whatever the body has stored for this parser.
    exact ⟨_, lookup_keep_self, Context.canReuse_iff_le.1 (Context.canReuse_pruned _ _)⟩

/-- Where a parser was curtailed, it is curtailed still. -/
theorem curtailed_of_memo (h : memo input kind parity key body pos ctx state = .done o after)
    (hcurtailed : Curtailed input kind key pos ctx state) :
    o = .failure { reason := .curtailment, pos, used := .single key } ∧
      Curtailed input kind key pos ctx after := by
  rw [memo_of_missed hcurtailed.1, if_pos hcurtailed.2] at h
  obtain ⟨rfl, rfl⟩ := Result.done.inj h
  exact ⟨rfl, hcurtailed⟩

/-- An invocation that came to an outcome comes to it again and leaves the table as it is, under the
same context and, unless it was curtailed, under every context that tracks at least as much. -/
theorem memo_twice [LawfulMemoTable T]
    (h : memo input kind parity key body pos ctx state = .done o after) :
    Recalls input kind parity key pos ctx after o ∧
      (¬ Curtailed input kind key pos ctx state → ∀ deeper : Context, ctx.Le deeper →
        Recalls input kind parity key pos deeper after o) := by
  have hdeeper (hfree : ¬ Curtailed input kind key pos ctx state) (deeper : Context)
      (hle : ctx.Le deeper) : Recalls input kind parity key pos deeper after o := by
    obtain ⟨under, hlookup, hunder⟩ := exists_lookup_of_memo h hfree
    exact recalls_of_lookup hlookup (hunder.trans hle)
  refine ⟨?_, hdeeper⟩
  by_cases hcurtailed : Curtailed input kind key pos ctx state
  · obtain ⟨rfl, hstill⟩ := curtailed_of_memo h hcurtailed
    exact recalls_of_curtailed hstill
  · exact hdeeper hcurtailed ctx (.refl ctx)

/-- A difference, invoked where its rule is being run already, and again deeper in its recursion. -/
theorem memo_twice_difference :
    let G : Grammar Samples.IntRule :=
      { define := fun _ => some (Samples.subtractionRule .even (.id 0)) }
    let body : Run Samples.IntRule OrderedTable Int :=
      G.run (Input.ofText "2-1") 9 (Samples.differences (.ref (S := Samples.IntRule) ()))
    let found : Outcome Int := .success ⟨1, 3, .single (.id 0)⟩
    ∃ after,
      memo (Input.ofText "2-1") () .even (.id 0) body 0 (.tracking (.id 0) 1) .new =
        .done found after ∧
      ∀ deeper : Context, (Context.tracking (.id 0) 1).Le deeper →
        Recalls (Input.ofText "2-1") () .even (.id 0) 0 deeper after found := by
  intro G body found
  let check (o : Outcome Int) (_ : State Samples.IntRule OrderedTable) : Bool :=
    decide (o = found)
  have hcheck : (memo (Input.ofText "2-1") () .even (.id 0) body 0 (.tracking (.id 0) 1)
      .new).finishedWith check = true := by
    decide +kernel
  obtain ⟨o, after, hfirst, ho⟩ := Result.exists_of_finishedWith hcheck
  obtain rfl : o = found := of_decide_eq_true ho
  have hfree : ¬ Curtailed (Input.ofText "2-1") () (.id 0) 0 (.tracking (.id 0) 1)
      (.new : State Samples.IntRule OrderedTable) := by
    rintro ⟨-, hdepth⟩
    exact absurd hdepth (by decide)
  exact ⟨after, hfirst, (memo_twice hfirst).2 hfree⟩

end Run
end LeftRec
