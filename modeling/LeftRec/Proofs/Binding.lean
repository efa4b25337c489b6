import LeftRec.Memo.Ordered
import LeftRec.Proofs.Course
import LeftRec.Proofs.Recursion
import LeftRec.Proofs.Visits
import LeftRec.Samples.Text

/-!
# Binding — how far the laws of monads hold

Running one parser after another is associative and has `unit` as its unit as far as values,
failures, positions and states go.  Used sets are another matter.  A sequence that consumed
something keeps the used set of its first part only, even if that part consumed nothing and the
second one began at the same position.  So `unit` before a parser makes it forget what it used, and
how a sequence is grouped decides what is forgotten.
-/

namespace LeftRec

variable {S : Signature} {T : Type → Type} {α β γ : Type}

/-! ## Outcomes and results that differ in used sets -/

/-- The second outcome is the first one less some of the keys that it used.  None of them is missing
if the outcome's position is the start. -/
structure Outcome.Forgets (start : Nat) (o o' : Outcome α) : Prop where
  same : o' = o.withUsed o'.used
  fewer : ∀ key ∈ o'.used, key ∈ o.used
  here : o.pos = start → o' = o

theorem Outcome.Forgets.refl (start : Nat) (o : Outcome α) : o.Forgets start o where
  same := by cases o <;> rfl
  fewer _ h := h
  here _ := rfl

/-- Two results that left one state, or came to the same end, and whose values are related. -/
inductive Result.Match {σ α β : Type} (R : α → β → Prop) : Result σ α → Result σ β → Prop
  | exhausted : Match R .exhausted .exhausted
  | stopped (fault : Fault) (state : σ) : Match R (.stopped fault state) (.stopped fault state)
  | done {a : α} {b : β} (state : σ) : R a b → Match R (.done a state) (.done b state)

theorem Result.Match.of_done {σ : Type} {R : α → β → Prop} {a : α} {state : σ} {r : Result σ β}
    (h : (Result.done a state).Match R r) : ∃ b, r = .done b state ∧ R a b := by
  cases h with
  | done _ hR => exact ⟨_, rfl, hR⟩

/-- Both groupings of three parts come to one outcome, but for used sets.  The first part went from
`start` to `middle`, the second one on to `stop`. -/
theorem Outcome.after_forgets {start middle stop : Nat} (first second : Used) (o : Outcome α)
    (hmiddle : start ≤ middle) (hstop : middle ≤ stop) (ho : stop ≤ o.pos) :
    (o.after start (Used.sequenced start stop first second)).Forgets start
      ((o.after middle second).after start first) := by
  have hsame : (o.after middle second).after start first = o.withUsed
      (Used.sequenced start o.pos first (Used.sequenced middle o.pos second o.used)) := by
    cases o <;> rfl
  rw [hsame]
  by_cases hmoved : start = o.pos
  -- Nothing was consumed, so all three used sets are kept in either grouping.
  · obtain rfl : start = middle := by omega
    obtain rfl : start = stop := by omega
    have hunion : o.after start (Used.sequenced start start first second) =
        o.withUsed ((first.union second).union o.used) := by
      rw [Outcome.after, ← hmoved, Used.sequenced_here, Used.sequenced_here]
    rw [hunion, ← hmoved, Used.sequenced_here, Used.sequenced_here, Used.union_assoc]
    exact .refl _ _
  -- Something was consumed, so only the first part's used set is sure to be kept.
  · rw [Outcome.after, Used.sequenced_of_ne hmoved, Used.sequenced_of_ne hmoved]
    refine ⟨by cases o <;> rfl, fun key hkey => ?_, fun hhere => ?_⟩
    · rw [Outcome.used_withUsed] at hkey ⊢
      unfold Used.sequenced
      split
      · exact Used.mem_union.2 (.inl hkey)
      · exact hkey
    · rw [Outcome.pos_withUsed] at hhere
      exact absurd hhere.symm hmoved

theorem Context.carried_carried (ctx : Context) {start middle stop : Nat} (hmiddle : start ≤ middle)
    (hstop : middle ≤ stop) :
    (ctx.carried start middle).carried middle stop = ctx.carried start stop := by
  by_cases hmoved : start = middle
  · rw [← hmoved, carried_self]
  · have hne : start ≠ stop := by omega
    rw [carried, carried, carried, if_neg hmoved, if_neg hne, ite_self]

/-! ## Runs -/

namespace Run

/-- After `unit` a parser forgets what it used, unless it ends where it began. -/
theorem unit_bind (a : α) (f : α → Run S T β) (pos : Nat) (ctx : Context) :
    bind (fun pos _ => pure (.yield a pos)) f pos ctx = (·.after pos ∅) <$> f a pos ctx := by
  unfold bind
  rw [pure_bind]
  simp only [Outcome.yield, Context.carried_self]
  rw [map_eq_pure_bind]

theorem bind_unit (p : Run S T α) : bind p (fun a pos _ => pure (.yield a pos)) = p := by
  funext pos ctx state
  unfold bind
  rw [Eval.bind_apply]
  cases hp : p pos ctx state with
  | exhausted => rfl
  | stopped fault next => rfl
  | done o next =>
      cases o with
      | failure e => rfl
      | success s =>
          have hafter : (Outcome.yield s.value s.pos).after pos s.used = .success s := by
            simp only [Outcome.after, Outcome.yield, Outcome.used, Used.sequenced_empty_right,
              Outcome.withUsed]
          simp only [pure_bind, Eval.pure_apply, hafter]

variable [MemoTable T] {input : Input S.Token} {p : Run S T α} {f : α → Run S T β}

/-- The two groupings of three parts come to the same but for used sets, if the parts do not go
back. -/
theorem bind_assoc_match (g : β → Run S T γ) (hp : p.Along (.ahead input))
    (hf : ∀ a, (f a).Along (.ahead input)) (hg : ∀ b, (g b).Along (.ahead input)) (pos : Nat)
    (ctx : Context) {state : State S T} (hstate : state.Along (.ahead input)) :
    (bind (bind p f) g pos ctx state).Match (Outcome.Forgets pos)
      (bind p (fun a => bind (f a) g) pos ctx state) := by
  unfold bind
  simp only [Eval.bind_apply]
  cases hfirst : p pos ctx state with
  | exhausted => exact .exhausted
  | stopped fault next => exact .stopped fault next
  | done first next =>
      obtain ⟨hmiddle, hnext⟩ := hp trivial hstate hfirst
      cases first with
      | failure e => exact .done next (.refl _ _)
      | success s =>
          simp only [Eval.bind_apply]
          cases hsecond : f s.value s.pos (ctx.carried pos s.pos) next with
          | exhausted => exact .exhausted
          | stopped fault later => exact .stopped fault later
          | done second later =>
              obtain ⟨hstop, hlater⟩ := hf s.value trivial hnext hsecond
              cases second with
              | failure e => exact .done later (.refl _ _)
              | success s' =>
                  have hcarried : (ctx.carried pos s.pos).carried s.pos s'.pos =
                      ctx.carried pos s'.pos := ctx.carried_carried hmiddle hstop
                  simp only [Eval.bind_apply, Eval.pure_apply, Outcome.after, Outcome.withUsed,
                    Outcome.pos, Outcome.used, hcarried]
                  cases hthird : g s'.value s'.pos (ctx.carried pos s'.pos) later with
                  | exhausted => exact .exhausted
                  | stopped fault last => exact .stopped fault last
                  | done third last =>
                      obtain ⟨hlast, -⟩ := hg s'.value trivial hlater hthird
                      exact .done last (Outcome.after_forgets _ _ _ hmiddle hstop hlast)

end Run

/-! ## Parsers -/

namespace Grammar

variable [MemoTable T] [LawfulMemoTable T] {G : Grammar S} {input : Input S.Token}

/-- How far binding obeys the laws of monads: `unit` after a parser changes nothing.  Before a
parser it makes it forget what it used where it consumed something.  The two groupings of three
parsers end alike and leave one state; the one to the right may forget used keys that the one to
the left keeps, where something was consumed. -/
theorem run_bind_laws {m : Parser S α} {f : α → Parser S β} {g : β → Parser S γ}
    (hm : G.Built Parser.Offered m) (hf : ∀ a, G.Built Parser.Offered (f a))
    (hg : ∀ b, G.Built Parser.Offered (g b)) (fuel pos : Nat) (ctx : Context) {state : State S T}
    (hstate : state.Along (.ahead input)) :
    (∀ a, G.run input fuel (.bind (.unit a) f) pos ctx state =
      ((·.after pos ∅) <$> G.run input fuel (f a) pos ctx) state) ∧
    G.run input fuel (.bind m .unit) pos ctx state = G.run input fuel m pos ctx state ∧
    (G.run input fuel (.bind (.bind m f) g) pos ctx state).Match (Outcome.Forgets pos)
      (G.run input fuel (.bind m fun a => .bind (f a) g) pos ctx state) := by
  refine ⟨fun a => ?_, ?_, ?_⟩
  · cases fuel with
    | zero => rfl
    | succ fuel =>
        rw [run_bind, ← Run.unit_bind a fun a => G.run input (fuel + 1) (f a)]
        rfl
  · cases fuel with
    | zero => rfl
    | succ fuel =>
        have hunit := Run.bind_unit (G.run input (fuel + 1) m : Run S T α)
        exact congrFun (congrFun (congrFun hunit pos) ctx) state
  · have hgoes {δ : Type} {p : Parser S δ} (hp : G.Built Parser.Offered p) :
        (G.run input fuel p : Run S T δ).Along (.ahead input) := along_run hp fuel
    rw [run_bind, run_bind, run_bind]
    simp only [run_bind]
    exact Run.bind_assoc_match _ (hgoes hm) (fun a => hgoes (hf a)) (fun b => hgoes (hg b)) pos ctx
      hstate

/-! ### Letters read from the left -/

/-- One or more letters. -/
def letter : Parser (TextSignature Unit String) String :=
  .ref (S := TextSignature Unit String) ()

/-- The rule is `e = e "x" | "x"`. -/
def letters : Grammar (TextSignature Unit String) where
  define _ := some (.memo (S := TextSignature Unit String) () .even (.id 0)
    (((letter.skip (Parser.text "x")).map fun e => e ++ "x") ||| Parser.text "x"))

theorem built_letters {α : Type} {p : Parser (TextSignature Unit String) α}
    (hp : p.All Parser.Offered) : letters.Built Parser.Offered p :=
  .of_defined hp fun _ =>
    ⟨trivial, trivial, ⟨trivial, trivial, trivial, trivial, trivial⟩, trivial, trivial⟩

/-- The rule is curtailed at the start of two letters, and its outcome says so. -/
theorem run_letter : ∃ after : State (TextSignature Unit String) OrderedTable,
    letters.run (Input.ofText "xx") 20 letter 0 ∅ .new =
      .done (.success ⟨"xx", 2, .single (.id 0)⟩) after :=
  Result.exists_of_finished (by decide +kernel)

/-- With `unit` before it the rule comes to the same, but says nothing of its curtailment. -/
theorem unit_bind_letter_ne :
    ∃ after : State (TextSignature Unit String) OrderedTable,
      letters.run (Input.ofText "xx") 20 letter 0 ∅ .new =
        .done (.success ⟨"xx", 2, .single (.id 0)⟩) after ∧
      letters.run (Input.ofText "xx") 20 (.bind (.unit ()) fun _ => letter) 0 ∅ .new =
        .done (.success ⟨"xx", 2, ∅⟩) after ∧
      letters.run (T := OrderedTable) (Input.ofText "xx") 20 (.bind (.unit ()) fun _ => letter) 0 ∅
        .new ≠ letters.run (Input.ofText "xx") 20 letter 0 ∅ .new := by
  obtain ⟨after, hletter⟩ := run_letter
  have hbound : letters.run (Input.ofText "xx") 20 (.bind (.unit ()) fun _ => letter) 0 ∅ .new =
      .done (.success ⟨"xx", 2, ∅⟩) after := by
    have hunit := Run.unit_bind () (fun _ => letters.run (T := OrderedTable) (Input.ofText "xx") 20
      letter) 0 ∅
    have happly := (congrFun hunit .new).trans (Eval.map_apply _ _ _)
    rw [hletter] at happly
    exact happly
  refine ⟨after, hletter, hbound, ?_⟩
  rw [hbound, hletter]
  intro h
  cases (Result.done.inj h).1

/-- A lookahead that consumes nothing, between `unit` and a letter: only one of the two groupings
keeps what the lookahead used. -/
theorem run_bind_laws_lookahead :
    let look : Unit → Parser (TextSignature Unit String) Bool := fun _ => .look letter
    let x : Bool → Parser (TextSignature Unit String) String := fun _ => .text "x"
    ∃ o o' after,
      letters.run (T := OrderedTable) (Input.ofText "xx") 20 (.bind (.bind (.unit ()) look) x) 0 ∅
        .new = .done o after ∧
      letters.run (T := OrderedTable) (Input.ofText "xx") 20
        (.bind (.unit ()) fun a => .bind (look a) x) 0 ∅ .new = .done o' after ∧
      o.used = .single (.id 0) ∧ o' = o.withUsed ∅ := by
  intro look x
  have hlook (a : Unit) : letters.Built Parser.Offered (look a) := built_letters ⟨trivial, trivial⟩
  have hx (b : Bool) : letters.Built Parser.Offered (x b) := built_letters ⟨trivial, trivial⟩
  have hstate : (.new : State (TextSignature Unit String) OrderedTable).Along
      (.ahead (Input.ofText "xx")) := State.noEntries_new.along _
  obtain ⟨-, -, hgrouped⟩ :=
    run_bind_laws (built_letters (p := .unit ()) trivial) hlook hx 20 0 ∅ hstate
  let uses (used : Used) (o : Outcome String)
      (_ : State (TextSignature Unit String) OrderedTable) : Bool := decide (o.used = used)
  have hleft : (letters.run (Input.ofText "xx") 20 (.bind (.bind (.unit ()) look) x) 0 ∅
      .new).finishedWith (uses (.single (.id 0))) = true := by
    decide +kernel
  have hright : (letters.run (Input.ofText "xx") 20 (.bind (.unit ()) fun a => .bind (look a) x) 0 ∅
      .new).finishedWith (uses ∅) = true := by
    decide +kernel
  obtain ⟨o, after, hrun, ho⟩ := Result.exists_of_finishedWith hleft
  rw [hrun] at hgrouped
  obtain ⟨o', hrun', hforgets⟩ := hgrouped.of_done
  rw [hrun'] at hright
  have ho' : o'.used = ∅ := of_decide_eq_true hright
  exact ⟨o, o', after, hrun, hrun', of_decide_eq_true ho, ho' ▸ hforgets.same⟩

end Grammar

end LeftRec
