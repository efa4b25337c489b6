import Mathlib.Data.List.Induction
import LeftRec.Memo.Ordered
import LeftRec.Proofs.Congruence
import LeftRec.Proofs.Recursion
import LeftRec.Proofs.Visits
import LeftRec.Samples.Text

/-!
# Choices — alternatives in order

However some alternatives are grouped, they are tried in order until one succeeds or fails fatally.
If none does, the failures that got furthest are reported as one.  Merging two failures at a time
comes to that because it is associative: expectations are listed as they are first seen, and what
did not get far enough is forgotten for good.
-/

namespace LeftRec

variable {S : Signature} {T : Type → Type} {α : Type}

/-! ## Expectations in the order in which they are first seen -/

namespace Expectation

variable {e : Expectation}

theorem push_of_mem {what : String} (h : what ∈ e.items) : e.push what = e :=
  dif_pos h

theorem extend_append (e : Expectation) (more others : List String) :
    e.extend (more ++ others) = (e.extend more).extend others :=
  List.foldl_append

theorem mem_extend {more : List String} {s : String} :
    s ∈ (e.extend more).items ↔ s ∈ e.items ∨ s ∈ more := by
  induction more generalizing e with
  | nil => simp [extend]
  | cons what rest ih =>
      have hcons : e.extend (what :: rest) = (e.push what).extend rest := rfl
      rw [hcons, ih, mem_push, List.mem_cons, or_assoc]

/-- A list with its last element is without duplicates what it is without that element, and then
the element if it is new. -/
theorem eraseDups_concat (items : List String) (what : String) :
    (items ++ [what]).eraseDups =
      if what ∈ items then items.eraseDups else items.eraseDups ++ [what] := by
  rw [List.eraseDups_append]
  split
  next h => simp [List.removeAll, h]
  next h => simp [List.removeAll, h, List.eraseDups_cons]

theorem items_push {before : List String} (h : e.items = before.eraseDups) (what : String) :
    (e.push what).items = (before ++ [what]).eraseDups := by
  have hmem : what ∈ e.items ↔ what ∈ before := by rw [h, List.mem_eraseDups]
  rw [eraseDups_concat, push]
  by_cases hwhat : what ∈ before
  · rw [dif_pos (hmem.2 hwhat), if_pos hwhat, h]
  · rw [dif_neg (hwhat ∘ hmem.1), if_neg hwhat, ← h]

theorem items_extend {before : List String} (h : e.items = before.eraseDups)
    (more : List String) : (e.extend more).items = (before ++ more).eraseDups := by
  induction more generalizing e before with
  | nil => rw [List.append_nil, ← h, extend, List.foldl_nil]
  | cons what rest ih =>
      rw [List.append_cons]
      exact ih (items_push h what)

/-- Descriptions that come again add nothing. -/
theorem extend_eraseDups (e : Expectation) (more : List String) :
    e.extend more.eraseDups = e.extend more := by
  induction more using List.reverseRecOn with
  | nil => rfl
  | append_singleton more what ih =>
      have hpush (l : List String) : e.extend (l ++ [what]) = (e.extend l).push what :=
        extend_append e l [what]
      rw [eraseDups_concat, hpush]
      split
      next h => rw [ih, push_of_mem (mem_extend.2 (.inr h))]
      next => rw [hpush, ih]

/-- Some descriptions, each listed where it is first seen. -/
def listed (items : List String) : Expectation where
  items := items.eraseDups
  distinct := by
    have hempty : (ofList []).items = ([] : List String).eraseDups := rfl
    have hitems : (ofList items).items = items.eraseDups := items_extend hempty items
    rw [← hitems]
    exact (ofList items).distinct

theorem extend_listed (items more : List String) :
    (listed items).extend (listed more).items = listed (items ++ more) := by
  have hextend : (listed items).extend (listed more).items = (listed items).extend more :=
    extend_eraseDups _ more
  rw [hextend]
  ext1
  exact items_extend rfl more

theorem listed_items (e : Expectation) : listed e.items = e := by
  have hself (items : List String) (hnodup : items.Nodup) : items.eraseDups = items := by
    induction items using List.reverseRecOn with
    | nil => rfl
    | append_singleton items what ih =>
        obtain ⟨hitems, -, hwhat⟩ := List.nodup_append.1 hnodup
        have hnew : what ∉ items := fun h => hwhat what h what List.mem_cons_self rfl
        rw [eraseDups_concat, if_neg hnew, ih hitems]
  ext1
  exact hself e.items e.distinct

end Expectation

/-! ## Failures reported as one -/

namespace Failure

/-- What a failure says was expected. -/
def expectations (e : Failure) : List String :=
  match e.reason with
  | .expected what => what.items
  | _ => []

/-- The furthest position that some failures are reported at. -/
def furthest (failures : List Failure) : Nat :=
  (failures.map (·.pos)).foldr max 0

/-- The keys that any of some failures depends on. -/
def usedBy (failures : List Failure) : Used :=
  failures.foldr (fun e used => e.used.union used) ∅

/-- One failure in place of some that were passed over: where they got furthest it lists what the
failures there expected, each description where it is first seen. -/
def summary (failures : List Failure) : Failure where
  reason := .expected (.listed
    ((failures.filter fun e => e.pos = furthest failures).flatMap expectations))
  pos := furthest failures
  used := usedBy failures

theorem le_furthest {failures : List Failure} {e : Failure} (h : e ∈ failures) :
    e.pos ≤ furthest failures := by
  induction failures with
  | nil => cases h
  | cons first rest ih =>
      have hcons : furthest (first :: rest) = max first.pos (furthest rest) := rfl
      rw [hcons]
      rcases List.mem_cons.1 h with rfl | h
      · exact Nat.le_max_left _ _
      · exact (ih h).trans (Nat.le_max_right _ _)

theorem furthest_append (failures more : List Failure) :
    furthest (failures ++ more) = max (furthest failures) (furthest more) := by
  induction failures with
  | nil => simp [furthest]
  | cons first rest ih =>
      have hcons (l : List Failure) : furthest (first :: l) = max first.pos (furthest l) := rfl
      rw [List.cons_append, hcons, hcons, ih, Nat.max_assoc]

theorem usedBy_append (failures more : List Failure) :
    usedBy (failures ++ more) = (usedBy failures).union (usedBy more) := by
  induction failures with
  | nil => exact (Used.empty_union _).symm
  | cons first rest ih =>
      have hcons (l : List Failure) : usedBy (first :: l) = first.used.union (usedBy l) := rfl
      rw [List.cons_append, hcons, hcons, ih, Used.union_assoc]

/-- No failure stands beyond the furthest position. -/
theorem filter_beyond {failures : List Failure} {pos : Nat} (h : furthest failures < pos) :
    failures.filter (fun e => e.pos = pos) = [] := by
  refine List.filter_eq_nil_iff.2 fun e he => ?_
  have hle := le_furthest he
  simp only [decide_eq_true_eq]
  omega

/-- The summary of one failure is that failure. -/
theorem summary_singleton {e : Failure} {what : Expectation} (h : e.reason = .expected what) :
    summary [e] = e := by
  obtain ⟨reason, pos, used⟩ := e
  obtain rfl : reason = .expected what := h
  have hpos : furthest [⟨.expected what, pos, used⟩] = pos := Nat.max_zero pos
  simp [summary, hpos, expectations, usedBy, Used.union_empty, Expectation.listed_items]

/-- Merging two summaries gives the summary of all their failures. -/
theorem merge_summary (failures more : List Failure) :
    (summary failures).merge (summary more) = summary (failures ++ more) := by
  have hpos := furthest_append failures more
  have hused := usedBy_append failures more
  have hfilter (pos : Nat) : (failures ++ more).filter (fun e => e.pos = pos) =
      failures.filter (fun e => e.pos = pos) ++ more.filter (fun e => e.pos = pos) :=
    List.filter_append ..
  have hfatal (l : List Failure) : (summary l).isFatal = false := rfl
  rcases Nat.lt_trichotomy (furthest failures) (furthest more) with hlt | heq | hgt
  -- The second summary is about failures that stand beyond all of the first.
  · have hmerge : (summary failures).merge (summary more) =
        { summary more with used := (usedBy failures).union (usedBy more) } := by
      have hbefore : (summary failures).pos < (summary more).pos := hlt
      simp only [merge, hfatal, hbefore, decide_true, Bool.or_true, Bool.false_eq_true, if_true,
        if_false]
      rfl
    rw [hmerge]
    simp [summary, hpos, hused, hfilter, filter_beyond hlt, Nat.max_eq_right hlt.le]
  · have hmerge : (summary failures).merge (summary more) =
        { reason := (summary failures).reason.mergeTied (summary more).reason
          pos := (summary more).pos
          used := (usedBy failures).union (usedBy more) } := by
      have hbefore : ¬ (summary failures).pos < (summary more).pos := heq.not_lt
      have hbehind : ¬ (summary more).pos < (summary failures).pos := heq.not_gt
      simp only [merge, hfatal, hbefore, hbehind, decide_false, Bool.or_false, Bool.false_eq_true,
        if_false]
      rfl
    rw [hmerge]
    simp [summary, hpos, hused, hfilter, heq, Reason.mergeTied, Expectation.extend_listed]
  · have hmerge : (summary failures).merge (summary more) =
        { summary failures with used := (usedBy failures).union (usedBy more) } := by
      have hbefore : ¬ (summary failures).pos < (summary more).pos := hgt.not_gt
      have hbehind : (summary more).pos < (summary failures).pos := hgt
      simp only [merge, hfatal, hbefore, hbehind, decide_false, Bool.or_false, Bool.false_eq_true,
        if_true, if_false]
      rfl
    rw [hmerge]
    simp [summary, hpos, hused, hfilter, filter_beyond hgt, Nat.max_eq_left hgt.le]

end Failure

/-! ## Attempts in order -/

/-- What ends a row of attempts early. -/
inductive Ending (α : Type)
  | success (s : Success α)
  | fatal (e : Failure) (isFatal : e.isFatal = true)

/-- What some attempts came to: the failures that were passed over, in order, and what ended them
early, if anything did. -/
structure Attempts (α : Type) where
  passed : List Failure
  ending : Option (Ending α)

namespace Attempts

/-- The attempts that followed some failures. -/
def behind (failures : List Failure) (a : Attempts α) : Attempts α :=
  { a with passed := failures ++ a.passed }

/-- The outcome of a choice: what ended it early, or else a summary of all failures.  It depends on
whatever any attempt depended on. -/
def outcome (a : Attempts α) : Outcome α :=
  match a.ending with
  | some (.success s) => .success { s with used := (Failure.usedBy a.passed).union s.used }
  | some (.fatal e _) => .failure { e with used := (Failure.usedBy a.passed).union e.used }
  | none => .failure (.summary a.passed)

theorem outcome_none (passed : List Failure) :
    ({ passed, ending := none } : Attempts α).outcome = .failure (.summary passed) := rfl

theorem behind_behind (failures more : List Failure) (a : Attempts α) :
    (a.behind more).behind failures = a.behind (failures ++ more) := by
  simp only [behind, List.append_assoc]

/-- Attempts that followed some failures come to what a choice comes to whose first branch failed
as the summary of those says. -/
theorem outcome_behind (failures : List Failure) (a : Attempts α) :
    (a.behind failures).outcome = a.outcome.behind (.summary failures) := by
  obtain ⟨passed, ending⟩ := a
  have hused (used : Used) : (Failure.usedBy (failures ++ passed)).union used =
      (Failure.usedBy failures).union ((Failure.usedBy passed).union used) := by
    rw [Failure.usedBy_append, Used.union_assoc]
  rcases ending with _ | s | ⟨e, he⟩
  · exact congrArg Outcome.failure (Failure.merge_summary failures passed).symm
  · simp only [behind, outcome, Outcome.behind, hused]
    rfl
  -- A fatal failure is what remains of merging it with the summary of those before it.
  · have hfatal : ({ e with used := (Failure.usedBy passed).union e.used } : Failure).isFatal =
        true := he
    have hsummary : (Failure.summary failures).isFatal = false := rfl
    simp only [behind, outcome, Outcome.behind, Failure.merge, hused, hfatal, hsummary,
      Bool.true_or, Bool.false_eq_true, if_true, if_false]
    rfl

end Attempts

namespace Run

/-- Try parsers in order, each at the same position and under the same context, until one succeeds
or fails fatally. -/
def attempts : List (Run S T α) → Nat → Context → Eval (State S T) (Attempts α)
  | [], _, _ => pure { passed := [], ending := none }
  | p :: rest, pos, ctx => do
      match ← p pos ctx with
      | .success s => pure { passed := [], ending := some (.success s) }
      | .failure e =>
          if h : e.isFatal = true then pure { passed := [], ending := some (.fatal e h) }
          else Attempts.behind [e] <$> attempts rest pos ctx

/-- The outcome of trying parsers in order. -/
def firstOf (ps : List (Run S T α)) : Run S T α := fun pos ctx =>
  Attempts.outcome <$> attempts ps pos ctx

/-- Of two groups the second one is tried if nothing ended the first one early. -/
theorem attempts_append (ps qs : List (Run S T α)) (pos : Nat) (ctx : Context) :
    attempts (ps ++ qs) pos ctx = attempts ps pos ctx >>= fun a =>
      match a.ending with
      | some _ => pure a
      | none => Attempts.behind a.passed <$> attempts qs pos ctx := by
  induction ps with
  | nil =>
      rw [List.nil_append, attempts, pure_bind]
      exact (id_map (attempts qs pos ctx)).symm
  | cons p ps ih =>
      rw [List.cons_append, attempts, attempts, bind_assoc]
      refine congrArg _ (funext fun first => ?_)
      cases first with
      | success s => rfl
      | failure e =>
          dsimp only
          split
          · rfl
          · rw [ih]
            simp only [map_bind, bind_map_left]
            refine congrArg _ (funext fun a => ?_)
            cases h : a.ending with
            | some last =>
                have hlast : (a.behind [e]).ending = some last := h
                simp only [hlast, map_pure]
            | none =>
                have hnone : (a.behind [e]).ending = none := h
                simp only [hnone, Functor.map_map, Attempts.behind_behind]
                rfl

/-- A choice between two groups is a choice between all their members. -/
theorem alt_firstOf (ps qs : List (Run S T α)) :
    alt (firstOf ps) (firstOf qs) = firstOf (ps ++ qs) := by
  funext pos ctx
  simp only [alt, firstOf, attempts_append, map_bind, bind_map_left]
  refine congrArg _ (funext fun a => ?_)
  obtain ⟨passed, ending⟩ := a
  rcases ending with _ | s | ⟨e, he⟩
  -- Nothing ended the first group, so the second one is tried behind its summary.
  · have hfatal : (Failure.summary passed).isFatal = false := rfl
    simp only [Attempts.outcome_none, hfatal, Bool.false_eq_true, if_false, map_eq_pure_bind,
      bind_assoc, pure_bind]
    refine congrArg _ (funext fun b => ?_)
    rw [Attempts.outcome_behind]
    cases b.outcome <;> rfl
  · rfl
  · have hfatal : ({ e with used := (Failure.usedBy passed).union e.used } : Failure).isFatal =
        true := he
    simp only [Attempts.outcome, hfatal, if_true, map_pure]

/-- Wherever one of the parsers is tried, which is where those before it have led, its failures that
are not fatal say what was expected. -/
def Expecting : List (Run S T α) → Nat → Context → State S T → Prop
  | [], _, _, _ => True
  | p :: rest, pos, ctx, state =>
      ∀ e after, p pos ctx state = .done (.failure e) after → e.isFatal = false →
        (∃ what, e.reason = .expected what) ∧ Expecting rest pos ctx after

section Expecting

variable {ps qs : List (Run S T α)} {pos : Nat} {ctx : Context} {state : State S T}

theorem Expecting.left (h : Expecting (ps ++ qs) pos ctx state) : Expecting ps pos ctx state := by
  induction ps generalizing state with
  | nil => trivial
  | cons p ps ih =>
      intro e after hp he
      obtain ⟨hwhat, hrest⟩ := h e after hp he
      exact ⟨hwhat, ih hrest⟩

/-- The second group is tried where the first one leads if nothing ended that early. -/
theorem Expecting.right (h : Expecting (ps ++ qs) pos ctx state) {a : Attempts α}
    {after : State S T} (hps : attempts ps pos ctx state = .done a after) (ha : a.ending = none) :
    Expecting qs pos ctx after := by
  induction ps generalizing state a with
  | nil =>
      obtain ⟨-, rfl⟩ := Eval.pure_eq_done.1 hps
      exact h
  | cons p ps ih =>
      obtain ⟨first, middle, hp, hnext⟩ := Eval.bind_eq_done.1 hps
      cases first with
      | success s =>
          obtain ⟨rfl, -⟩ := Eval.pure_eq_done.1 hnext
          cases ha
      | failure e =>
          dsimp only at hnext
          split at hnext
          next =>
            obtain ⟨rfl, -⟩ := Eval.pure_eq_done.1 hnext
            cases ha
          next he =>
            obtain ⟨others, hothers, rfl⟩ := Eval.map_eq_done.1 hnext
            exact ih (h e middle hp (Bool.eq_false_of_not_eq_true he)).2 hothers ha

end Expecting

/-- Where a choice fails without being fatal, nothing ended it early. -/
theorem exists_attempts_of_firstOf {ps : List (Run S T α)} {pos : Nat} {ctx : Context}
    {state after : State S T} {e : Failure}
    (h : firstOf ps pos ctx state = .done (.failure e) after) (he : e.isFatal = false) :
    ∃ a, attempts ps pos ctx state = .done a after ∧ a.ending = none := by
  obtain ⟨⟨passed, ending⟩, hattempts, houtcome⟩ := Eval.map_eq_done.1 h
  refine ⟨_, hattempts, ?_⟩
  rcases ending with _ | s | ⟨last, hlast⟩
  · rfl
  · cases houtcome
  · obtain rfl := Outcome.failure.inj houtcome
    cases hlast.symm.trans he

/-- Trying one parser is running it, if its failures that are not fatal say what was expected. -/
theorem firstOf_singleton {p : Run S T α} {pos : Nat} {ctx : Context} {state : State S T}
    (hp : Expecting [p] pos ctx state) : firstOf [p] pos ctx state = p pos ctx state := by
  have hnone (used : Used) : (Failure.usedBy []).union used = used := Used.empty_union used
  simp only [firstOf, attempts, Eval.map_apply, Eval.bind_apply]
  cases hrun : p pos ctx state with
  | exhausted => rfl
  | stopped fault next => rfl
  | done o after =>
      cases o with
      | success s => simp [Attempts.outcome, hnone]
      | failure e =>
          cases he : e.isFatal with
          | true => simp [he, Attempts.outcome, hnone]
          | false =>
              obtain ⟨⟨what, hwhat⟩, -⟩ := hp e after hrun he
              simp [he, Attempts.outcome, Attempts.behind, Failure.summary_singleton hwhat]

end Run

/-! ## Groups of alternatives -/

/-- The second is a choice between the parsers that the first lists in order, grouped somehow. -/
inductive Parser.Groups : List (Parser S α) → Parser S α → Prop
  | single (p : Parser S α) : Groups [p] p
  | alt {ps qs : List (Parser S α)} {p q : Parser S α} :
      Groups ps p → Groups qs q → Groups (ps ++ qs) (p ||| q)

namespace Grammar

variable [MemoTable T] {G : Grammar S} {input : Input S.Token}

/-- However alternatives are grouped, they are tried in order, each at the start of the choice and
under its context, until one succeeds or fails fatally.  That one's outcome is the outcome of the
choice.  If there is none, the choice fails where the alternatives got furthest, and lists what they
expected there, each description once and in the order in which they say so.  Either way the choice
depends on all that the alternatives tried depended on. -/
theorem run_choice_is_ordered {ps : List (Parser S α)} {p : Parser S α}
    (hgroups : Parser.Groups ps p) (fuel pos : Nat) (ctx : Context) (state : State S T)
    (hexpected : Run.Expecting (ps.map fun q => G.run input fuel q) pos ctx state) :
    G.run input fuel p pos ctx state =
      (Attempts.outcome <$> Run.attempts (ps.map fun q => G.run input fuel q) pos ctx) state := by
  induction hgroups generalizing state with
  | single p => exact (Run.firstOf_singleton hexpected).symm
  | @alt ps qs p q _ _ ihp ihq =>
      rw [List.map_append] at hexpected ⊢
      show G.run input fuel (.alt p q) pos ctx state = Run.firstOf (_ ++ _) pos ctx state
      rw [run_alt, ← Run.alt_firstOf]
      -- The second group is run only where the first one has failed, and there it is expected.
      refine Run.alt_congr (ihp state hexpected.left) fun e middle hfirst he => ?_
      obtain ⟨a, hattempts, ha⟩ := Run.exists_attempts_of_firstOf hfirst he
      exact ihq middle (hexpected.right hattempts ha)

/-- Of three alternatives two get as far as a second letter, which neither of them expected.  The
last one is memoized. -/
theorem run_choice_is_ordered_letters :
    let G : Grammar (TextSignature Unit (List Char)) := { define := fun _ => none }
    let letter (c : Char) : Parser (TextSignature Unit (List Char)) (List Char) :=
      .literal (S := TextSignature Unit (List Char)) [c] (String.singleton c)
    let run (p : Parser (TextSignature Unit (List Char)) (List Char)) :
        Run _ OrderedTable (List Char) := G.run (Input.ofList ['a', 'd']) 1 p
    let b := letter 'b'
    let ab := (letter 'a').skip (letter 'b')
    let ac : Parser (TextSignature Unit (List Char)) (List Char) :=
      .memo (S := TextSignature Unit (List Char)) () .even (.id 0) ((letter 'a').skip (letter 'c'))
    run (b ||| (ab ||| ac)) 0 ∅ .new =
        (Attempts.outcome <$> Run.attempts [run b, run ab, run ac] 0 ∅) .new ∧
      ∃ after, run (b ||| (ab ||| ac)) 0 ∅ .new =
        .done (.failure ⟨.expected (.listed ["b", "c"]), 1, ∅⟩) after := by
  intro G letter run b ab ac
  have hgroups : Parser.Groups [b, ab, ac] (b ||| (ab ||| ac)) :=
    .alt (.single b) (.alt (.single ab) (.single ac))
  have hb : run b 0 ∅ .new = .done (.fail (.expecting "b") 0) .new := rfl
  have hab : run ab 0 ∅ .new = .done (.fail (.expecting "b") 1) .new := rfl
  obtain ⟨after, hac⟩ : ∃ after, run ac 0 ∅ .new = .done (.fail (.expecting "c") 1) after :=
    ⟨_, rfl⟩
  have hexpected : Run.Expecting [run b, run ab, run ac] 0 ∅ .new := by
    intro e middle hrun _
    cases hb.symm.trans hrun
    refine ⟨⟨_, rfl⟩, fun e middle hrun _ => ?_⟩
    cases hab.symm.trans hrun
    refine ⟨⟨_, rfl⟩, fun e middle hrun _ => ?_⟩
    cases hac.symm.trans hrun
    exact ⟨⟨_, rfl⟩, trivial⟩
  exact ⟨run_choice_is_ordered hgroups 1 0 ∅ .new hexpected, _, rfl⟩

end Grammar

end LeftRec
