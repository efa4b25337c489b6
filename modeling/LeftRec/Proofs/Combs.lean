import LeftRec.Memo.Ordered
import LeftRec.Proofs.Yields
import LeftRec.Samples.Pairs

/-!
# Combs — the one parse of an ambiguous rule

The rule `E = E E | "a"` has as many derivations of a run of letters as there are binary trees over
it.  Only one is found.  At a position the innermost level has a letter of its own.  The level
around it has that letter for its left part, and its right part is what the rule comes to behind it,
which is all the rest.  From there on nothing is left for a right part, so every further level falls
back on its letter, and hands on what is in the table.
-/

namespace LeftRec

/-- The tree of one letter more than given, in which each letter is paired with all that follow. -/
def Tree.comb : Nat → Tree
  | 0 => .leaf
  | n + 1 => .pair .leaf (comb n)

/-- Two failures that got equally far are reported as one. -/
theorem Failure.merge_of_pos_eq {first second : Failure} (hfirst : first.isFatal = false)
    (hsecond : second.isFatal = false) (hpos : first.pos = second.pos) :
    first.merge second =
      ⟨first.reason.mergeTied second.reason, second.pos, first.used.union second.used⟩ := by
  simp [Failure.merge, hfirst, hsecond, hpos]

namespace Samples

open Grammar (Yields Refuses yields_text refuses_text)

abbrev TreeRule : Signature := TextSignature Unit Tree

/-- The grammar whose rule has the given key. -/
def pairing (key : Key) : Grammar TreeRule where
  define _ := some (pairsRule key)

/-- The rule. -/
def paired : Parser TreeRule Tree :=
  .ref (S := TreeRule) ()

/-- Two times the rule, or a letter. -/
def pairsBody : Parser TreeRule Tree :=
  ((paired + paired).map fun (left, right) => Tree.pair left right)
    ||| (Parser.text "a").yielding Tree.leaf

theorem pairing_defined (key : Key) :
    (pairing key).define () = some (.memo (S := TreeRule) () .even key pairsBody) := rfl

variable {T : Type → Type} [MemoTable T] {input : Input TreeRule.Token} {key : Key}
variable {fuel need n pos middle stop far last : Nat} {ctx : Context}
variable {state between next : State TreeRule T} {v w : Tree}

/-! ## What the body comes to -/

/-- The rule twice is a pair. -/
theorem yields_pair
    (hleft : Yields (pairing key) input (fuel + 1) paired [key] pos ctx state v middle between)
    (hmoved : pos < middle)
    (hright : Yields (pairing key) input (fuel + 1) paired [key] middle ∅ between w stop next) :
    Yields (pairing key) input (fuel + 1) pairsBody [key] pos ctx state (.pair v w) stop next := by
  have hempty : ctx.carried pos middle = ∅ := if_neg (Nat.ne_of_lt hmoved)
  rw [← hempty] at hright
  have hpair := (hleft.zipWith Prod.mk hright).tryMap
    (f := fun (trees : Tree × Tree) => .ok (Tree.pair trees.1 trees.2)) rfl
  exact hpair.alt_left _

/-- There is only a letter if the rule fails, or fails behind what it has found. -/
theorem yields_letter
    (hpair : Refuses (pairing key) input (fuel + 1) (paired + paired) [key] pos ctx state between)
    (hread : input.Reads pos "a".toList middle) :
    Yields (pairing key) input (fuel + 1) pairsBody [key] pos ctx state .leaf middle between := by
  have hletter : Yields (pairing key) input (fuel + 1) ((Parser.text "a").yielding Tree.leaf) [key]
      pos ctx between .leaf middle between :=
    (yields_text hread (by decide)).tryMap rfl
  exact Yields.alt_right (hpair.tryMap _) hletter

/-! ## Where no letter stands -/

/-- How the rule fails where no letter stands. -/
def missing (key : Key) (pos : Nat) : Failure :=
  { reason := .expecting "a", pos, used := .single key }

theorem mem_used_missing {k : Key} (h : k ∈ (missing key pos).used) : k ∈ [key] := h

/-- If the rule itself fails, then the body fails for want of a letter. -/
theorem run_body_missing {reason : Reason}
    (hself : (pairing key).run input (fuel + 1) paired pos ctx state =
      .done (.failure ⟨reason, pos, .single key⟩) next)
    (hreason : reason = .curtailment ∨ reason = .expecting "a")
    (hletter : input.startsWith pos "a".toList = false) :
    (pairing key).run input (fuel + 1) pairsBody pos ctx state =
      .done (.failure (missing key pos)) next := by
  have hpair : Run.tryMap (fun (trees : Tree × Tree) => .ok (Tree.pair trees.1 trees.2))
      (Run.zipWith Prod.mk ((pairing key).run input (fuel + 1) paired)
        ((pairing key).run input (fuel + 1) paired)) pos ctx state =
      .done (.failure ⟨reason, pos, .single key⟩) next :=
    Run.tryMap_eq_done.2 (.inl ⟨_, Run.zipWith_eq_done.2 (.inl ⟨_, hself, rfl⟩), rfl⟩)
  have hsingle : (pairing key).run input (fuel + 1) ((Parser.text "a").yielding Tree.leaf) pos ctx
      next = .done (.failure ⟨.expecting "a", pos, ∅⟩) next := by
    have hliteral : Run.literal input "a".toList "a" pos ctx next =
        .done (.failure ⟨.expecting "a", pos, ∅⟩) next := by
      unfold Run.literal
      rw [hletter]
      rfl
    have htext : (pairing key).run input (fuel + 1) (.text "a") pos ctx next =
        .done (.failure ⟨.expecting "a", pos, ∅⟩) next :=
      (Run.tryMap_eq_done (f := fun word => .ok (String.ofList word))).2 (.inl ⟨_, hliteral, rfl⟩)
    exact (Run.tryMap_eq_done (f := fun _ => .ok Tree.leaf)).2 (.inl ⟨_, htext, rfl⟩)
  have hfatal : (⟨reason, pos, .single key⟩ : Failure).isFatal = false := by
    rcases hreason with rfl | rfl
    · rfl
    · rfl
  have htied : reason.mergeTied (.expecting "a") = .expecting "a" := by
    rcases hreason with rfl | rfl
    · rfl
    · decide
  have hmerge : (⟨reason, pos, .single key⟩ : Failure).merge ⟨.expecting "a", pos, ∅⟩ =
      missing key pos := by
    have hsecond : (⟨.expecting "a", pos, ∅⟩ : Failure).isFatal = false := rfl
    rw [Failure.merge_of_pos_eq hfatal hsecond rfl, htied]
    rfl
  exact Run.alt_eq_done.2 (.inr (.inr ⟨_, next, hpair, hfatal, .inr ⟨_, hsingle, hmerge ▸ rfl⟩⟩))

theorem run_paired (key : Key) (fuel : Nat) :
    ((pairing key).run input (fuel + 2) paired : Run TreeRule T Tree) =
      Run.memo (S := TreeRule) input () .even key ((pairing key).run input (fuel + 1) pairsBody) :=
  Grammar.run_memoized (pairing_defined key) fuel

/-- If there is an entry, then it is the rule's failure and may be used anywhere. -/
def Stuck (key : Key) (pos : Nat) (state : State TreeRule T) : Prop :=
  ∀ o under, state.lookup () key pos = some (o, under) →
    o = .failure (missing key pos) ∧ under = ∅

theorem Stuck.of_sameOn {region : Slot → Prop} (h : Stuck key pos state)
    (hsame : state.SameOn region next) (hslot : region (key, pos)) : Stuck key pos next := by
  intro o under hlookup
  rw [hsame () key pos hslot] at hlookup
  exact h o under hlookup

theorem stuck_of_freshFrom (h : state.FreshFrom pos) (hpos : pos ≤ far) :
    Stuck key far state := by
  intro o under hlookup
  rw [h () key far hpos] at hlookup
  cases hlookup

variable [LawfulMemoTable T]

/-- A level whose body fails for want of a letter stores that. -/
theorem run_missing_level (hlength : input.tokens.length < 2 ^ 32 - 2)
    (hletter : input.startsWith pos "a".toList = false)
    (hdepth : ctx.depth key ≤ input.remaining pos + 1) (hentry : state.lookup () key pos = none)
    {reason : Reason}
    (hself : (pairing key).run input (fuel + 1) paired pos
      (ctx.withDepth key (ctx.depth key + 1)) state =
        .done (.failure ⟨reason, pos, .single key⟩) between)
    (hreason : reason = .curtailment ∨ reason = .expecting "a")
    (hnone : ∀ s under, between.lookup () key pos ≠ some (.success s, under))
    (hsame : state.SameOn (fun slot => slot ≠ (key, pos)) between) :
    ∃ next, (pairing key).run input (fuel + 2) paired pos ctx state =
        .done (.failure (missing key pos)) next ∧
      next.lookup () key pos =
        some (.failure (missing key pos), ctx.pruned (missing key pos).used) ∧
      state.SameOn (fun slot => slot ≠ (key, pos)) next := by
  obtain ⟨kept, next, hrun, hkept, hstored, hframe⟩ := Grammar.run_kept (pairing_defined key)
    hlength hentry hdepth (run_body_missing hself hreason hletter)
  have hfresh : kept = .failure (missing key pos) := hkept.symm.trans (Run.keep_of_failure hnone)
  subst hfresh
  exact ⟨next, hrun, hstored, hsame.trans hframe⟩

/-- Every level but the one that is curtailed fails for want of a letter. -/
theorem run_missing (hlength : input.tokens.length < 2 ^ 32 - 2)
    (hletter : input.startsWith pos "a".toList = false) (hfuel : n + 3 ≤ fuel)
    (hdepth : ctx.depth key + n = input.remaining pos + 1)
    (hentry : state.lookup () key pos = none) :
    ∃ next, (pairing key).run input fuel paired pos ctx state =
        .done (.failure (missing key pos)) next ∧
      next.lookup () key pos =
        some (.failure (missing key pos), ctx.pruned (missing key pos).used) ∧
      state.SameOn (fun slot => slot ≠ (key, pos)) next := by
  -- The induction is on the levels inside this one, down to the one that is curtailed.
  induction n generalizing fuel ctx with
  | zero =>
      obtain ⟨fuel, rfl⟩ : ∃ left, fuel = left + 3 := ⟨fuel - 3, by omega⟩
      have hbound : Run.depthBound (input.remaining pos) <
          (ctx.withDepth key (ctx.depth key + 1)).depth key := by
        rw [Context.depth_withDepth, if_pos rfl]
        simp only [Run.depthBound]
        omega
      refine run_missing_level hlength hletter (by omega) hentry
        (Grammar.run_curtailed (pairing_defined key) fuel hentry hbound) (.inl rfl)
        (fun s under hlookup => ?_) (.of_memo rfl)
      cases hentry.symm.trans hlookup
  | succ n ih =>
      obtain ⟨fuel, rfl⟩ : ∃ left, fuel = left + 2 := ⟨fuel - 2, by omega⟩
      have hinner : (ctx.withDepth key (ctx.depth key + 1)).depth key + n =
          input.remaining pos + 1 := by
        rw [Context.depth_withDepth, if_pos rfl]
        omega
      have hless : n + 3 ≤ fuel + 1 := by omega
      obtain ⟨between, hself, hstored, hsame⟩ := ih hless hinner
      refine run_missing_level hlength hletter (by omega) hentry hself (.inr rfl)
        (fun s under hlookup => ?_) hsame
      cases hstored.symm.trans hlookup

/-- Where no letter stands the rule fails, the first time and whenever it is run again. -/
theorem run_stuck (hlength : input.tokens.length < 2 ^ 32 - 2)
    (hletter : input.startsWith pos "a".toList = false) (hfuel : input.remaining pos + 4 ≤ fuel)
    (hstate : Stuck key pos state) :
    ∃ next, (pairing key).run input fuel paired pos ∅ state =
        .done (.failure (missing key pos)) next ∧
      Stuck key pos next ∧ state.SameOn (fun slot => slot ≠ (key, pos)) next := by
  -- The first time all levels are run, and after that the failure is in the table.
  cases hentry : state.lookup () key pos with
  | none =>
      have hdepth : (∅ : Context).depth key + (input.remaining pos + 1) =
          input.remaining pos + 1 := Nat.zero_add _
      obtain ⟨next, hrun, hstored, hsame⟩ := run_missing hlength hletter hfuel hdepth hentry
      refine ⟨next, hrun, fun o under hlookup => ?_, hsame⟩
      obtain ⟨rfl, rfl⟩ := Prod.mk.inj (Option.some.inj (hstored.symm.trans hlookup))
      exact ⟨rfl, (Context.untracked_empty [key]).pruned fun _ hmem => hmem⟩
  | some found =>
      obtain ⟨o, under⟩ := found
      obtain ⟨rfl, rfl⟩ := hstate o under hentry
      obtain ⟨fuel, rfl⟩ : ∃ left, fuel = left + 2 := ⟨fuel - 2, by omega⟩
      refine ⟨state.note (.hit key pos), ?_, hstate, .of_memo rfl⟩
      rw [run_paired]
      exact Run.memo_of_hit hentry rfl

/-! ## Levels -/

/-- What a level leaves: its success, and the rule's failure behind the last letter.  It has touched
nothing but the rule's own slots before `last`. -/
structure Grown (key : Key) (pos far last : Nat) (v : Tree) (stop : Nat)
    (state next : State TreeRule T) : Prop where
  entry : ∃ used under, next.lookup () key pos = some (.success ⟨v, stop, used⟩, under) ∧
    ∀ k ∈ used, k ∈ [key]
  stuck : Stuck key far next
  frame : state.SameOn (fun slot => ¬ Inside [key] pos last slot) next

/-- The level with so many levels inside before the one that is curtailed comes to the tree. -/
def Grows (T : Type → Type) [MemoTable T] [LawfulMemoTable T] (key : Key)
    (input : Input TreeRule.Token) (need far last pos n : Nat) (v : Tree) (stop : Nat) : Prop :=
  pos < stop ∧ ∀ (fuel : Nat) (ctx : Context) (state : State TreeRule T), need + n ≤ fuel →
    ctx.depth key + n = input.remaining pos + 1 → state.FreshFrom pos →
      ∃ next, Yields (pairing key) input fuel paired [key] pos ctx state v stop next ∧
        Grown key pos far last v stop state next

/-- Where nothing has been entered yet, the rule comes to the tree and to the last letter. -/
def Spans (T : Type → Type) [MemoTable T] (key : Key) (input : Input TreeRule.Token)
    (need far pos : Nat) (v : Tree) : Prop :=
  ∀ (fuel : Nat) (state : State TreeRule T), need ≤ fuel → state.FreshFrom pos →
    ∃ next, Yields (pairing key) input fuel paired [key] pos ∅ state v far next ∧
      Stuck key far next ∧ state.SameOn (fun slot => ¬ Inside [key] pos (far + 1) slot) next

theorem Grows.mono {later : Nat} (h : Grows T key input need far last pos n v stop)
    (hlater : last ≤ later) : Grows T key input need far later pos n v stop := by
  obtain ⟨hahead, hlevel⟩ := h
  refine ⟨hahead, fun fuel ctx state hfuel hdepth hstate => ?_⟩
  obtain ⟨next, hyields, hentry, hstuck, hframe⟩ := hlevel fuel ctx state hfuel hdepth hstate
  exact ⟨next, hyields, hentry, hstuck, hframe.mono fun slot houtside hinside =>
    houtside (hinside.mono (fun _ hmem => hmem) hlater)⟩

omit [LawfulMemoTable T] in
theorem Spans.mono {more : Nat} (h : Spans T key input need far pos v) (hmore : need ≤ more) :
    Spans T key input more far pos v :=
  fun fuel state hfuel => h fuel state (Nat.le_trans hmore hfuel)

section Steps

variable (hlength : input.tokens.length < 2 ^ 32 - 2)

include hlength

/-- A level that keeps a success of its body has grown. -/
theorem grown_of_kept (hstate : state.FreshFrom pos)
    (hdepth : ctx.depth key ≤ input.remaining pos + 1) (hfar : pos < far)
    {fresh : Outcome Tree} {used : Used}
    (hbody : (pairing key).run input (fuel + 1) pairsBody pos
      (ctx.withDepth key (ctx.depth key + 1)) state = .done fresh between)
    (hkept : (Run.keep (S := TreeRule) input () .even key pos ctx fresh between).1 =
      .success ⟨v, stop, used⟩)
    (hused : ∀ k ∈ used, k ∈ [key]) (hstuck : Stuck key far between)
    (hframe : state.SameOn (fun slot => ¬ Inside [key] pos last slot) between) :
    ∃ next, Yields (pairing key) input (fuel + 2) paired [key] pos ctx state v stop next ∧
      Grown key pos far last v stop state next := by
  obtain ⟨kept, next, hrun, hsame, hstored, hkeepFrame⟩ := Grammar.run_kept (pairing_defined key)
    hlength (hstate () key pos (Nat.le_refl pos)) hdepth hbody
  obtain rfl : kept = .success ⟨v, stop, used⟩ := hsame.symm.trans hkept
  refine ⟨next, ⟨used, hrun, hused⟩, ⟨used, _, hstored, hused⟩, ?_, ?_⟩
  · refine hstuck.of_sameOn hkeepFrame fun hslot => ?_
    exact Nat.ne_of_gt hfar (Prod.mk.inj hslot).2
  · refine hframe.trans (hkeepFrame.mono fun slot houtside hslot => houtside ?_)
    exact hslot ▸ .inr ⟨rfl, List.mem_cons_self⟩

/-- The innermost level has its letter. -/
theorem grows_letter (hread : input.Reads pos "a".toList middle) (hfar : pos < far)
    (hneed : 3 ≤ need) : Grows T key input need far (pos + 1) pos 0 .leaf middle := by
  refine ⟨hread.lt (List.cons_ne_nil _ _), fun fuel ctx state hfuel hdepth hstate => ?_⟩
  obtain ⟨fuel, rfl⟩ : ∃ left, fuel = left + 3 := ⟨fuel - 3, by omega⟩
  have hbound : Run.depthBound (input.remaining pos) <
      (ctx.withDepth key (ctx.depth key + 1)).depth key := by
    rw [Context.depth_withDepth, if_pos rfl]
    simp only [Run.depthBound]
    omega
  obtain ⟨between, hself, hmemo⟩ := Grammar.refuses_curtailed (pairing_defined key) fuel
    (List.mem_cons_self : key ∈ [key]) (hstate () key pos (Nat.le_refl pos)) hbound
  have hempty := hstate.of_memo hmemo
  obtain ⟨used, hrun, hused⟩ := yields_letter (hself.zipWith_left Prod.mk paired) hread
  refine grown_of_kept hlength hstate (by omega) hfar hrun (Run.keep_of_furthest ?_) hused
    (stuck_of_freshFrom hempty (Nat.le_of_lt hfar)) (.of_memo hmemo)
  intro stored under hlookup
  cases (hempty () key pos (Nat.le_refl pos)).symm.trans hlookup

/-- The level around the innermost one pairs the letter with all that follows. -/
theorem grows_pair (hspans : Spans T key input need far middle w) (hfar : middle < far)
    (hneed : 1 ≤ need) (h : Grows T key input need far (pos + 1) pos 0 v middle) :
    Grows T key input need far (far + 1) pos 1 (.pair v w) far := by
  obtain ⟨hahead, hlevel⟩ := h
  refine ⟨by omega, fun fuel ctx state hfuel hdepth hstate => ?_⟩
  obtain ⟨fuel, rfl⟩ : ∃ left, fuel = left + 2 := ⟨fuel - 2, by omega⟩
  have hinner : (ctx.withDepth key (ctx.depth key + 1)).depth key + 0 =
      input.remaining pos + 1 := by
    rw [Context.depth_withDepth, if_pos rfl]
    exact hdepth
  obtain ⟨between, hself, hgrown⟩ := hlevel (fuel + 1) _ state (by omega) hinner hstate
  have hbehind : between.FreshFrom middle :=
    hstate.after_inside (Nat.lt_succ_self pos) hgrown.frame hahead
  obtain ⟨next, hright, hstuck, hframe⟩ := hspans (fuel + 1) between (by omega) hbehind
  obtain ⟨used, hrun, hused⟩ := yields_pair hself hahead hright
  -- The right part lies behind the position, so the level's own entry is still the letter.
  obtain ⟨usedThere, under, hentry, -⟩ := hgrown.entry
  have hstored := (hframe () key pos (by rintro (⟨hfrom, -⟩ | ⟨hat, -⟩) <;> simp only at * <;>
    omega)).trans hentry
  refine grown_of_kept hlength hstate (by omega) (by omega) hrun (Run.keep_of_furthest ?_) hused
    hstuck ?_
  · intro stored under' hlookup
    cases hstored.symm.trans hlookup
    exact Nat.le_of_lt hfar
  · have hinside : state.SameOn (fun slot => ¬ Inside [key] pos (far + 1) slot) between :=
      hgrown.frame.mono fun slot houtside hslot =>
        houtside (hslot.mono (fun _ hmem => hmem) (by omega))
    refine hinside.trans (hframe.mono fun slot houtside hslot => houtside (.inl ?_))
    rcases hslot with ⟨hfrom, hto⟩ | ⟨hat, -⟩ <;> omega

/-- Once nothing follows, all levels further out hand on what the table holds. -/
theorem grows_more (hread : input.Reads pos "a".toList middle)
    (hletter : input.startsWith far "a".toList = false)
    (hneed : input.remaining far + 4 ≤ need) (hmiddle : middle < far ∨ middle = far ∧ v = .leaf)
    (h : Grows T key input need far (far + 1) pos n v far) :
    Grows T key input need far (far + 1) pos (n + 1) v far := by
  obtain ⟨hahead, hlevel⟩ := h
  refine ⟨hahead, fun fuel ctx state hfuel hdepth hstate => ?_⟩
  obtain ⟨fuel, rfl⟩ : ∃ left, fuel = left + 2 := ⟨fuel - 2, by omega⟩
  have hinner : (ctx.withDepth key (ctx.depth key + 1)).depth key + n =
      input.remaining pos + 1 := by
    rw [Context.depth_withDepth, if_pos rfl]
    omega
  obtain ⟨between, hself, hgrown⟩ := hlevel (fuel + 1) _ state (by omega) hinner hstate
  -- There is no right part, so the body falls back on the letter.
  obtain ⟨next, hfails, hstuck, hframe⟩ := run_stuck hlength hletter (by omega : _ ≤ fuel + 1)
    hgrown.stuck
  have hempty : (ctx.withDepth key (ctx.depth key + 1)).carried pos far = ∅ :=
    if_neg (Nat.ne_of_lt hahead)
  have hpair : Refuses (pairing key) input (fuel + 1) (paired + paired) [key] pos
      (ctx.withDepth key (ctx.depth key + 1)) state next := by
    refine Refuses.zipWith_right Prod.mk hself ?_
    rw [hempty]
    exact ⟨_, hfails, rfl, fun _ => mem_used_missing⟩
  obtain ⟨used, hrun, hused⟩ := yields_letter hpair hread
  obtain ⟨usedThere, under, hentry, husedThere⟩ := hgrown.entry
  have hstored := (hframe () key pos fun hslot => Nat.ne_of_lt hahead (Prod.mk.inj hslot).2).trans
    hentry
  have hsame : state.SameOn (fun slot => ¬ Inside [key] pos (far + 1) slot) next := by
    refine hgrown.frame.trans (hframe.mono fun slot houtside hslot => houtside ?_)
    exact hslot ▸ .inl ⟨hahead, Nat.lt_succ_self far⟩
  rcases hmiddle with hfurther | ⟨rfl, rfl⟩
  · exact grown_of_kept hlength hstate (by omega) hahead hrun (Run.keep_of_further hstored hfurther)
      husedThere hstuck hsame
  · refine grown_of_kept hlength hstate (by omega) hahead hrun (Run.keep_of_furthest ?_) hused
      hstuck hsame
    intro stored under' hlookup
    cases hstored.symm.trans hlookup
    exact Nat.le_refl _

/-- So the outermost level finds what some level inside has come to. -/
theorem spans_of_grows (hread : input.Reads pos "a".toList middle)
    (hletter : input.startsWith far "a".toList = false)
    (hneed : input.remaining far + 4 ≤ need) (hmiddle : middle < far ∨ middle = far ∧ v = .leaf)
    (hn : n ≤ input.remaining pos + 1) (h : Grows T key input need far (far + 1) pos n v far) :
    Spans T key input (need + input.remaining pos + 1) far pos v := by
  -- From the level that has come to it, the tree is handed on level by level.
  have houter (m : Nat) (hm : n ≤ m) : Grows T key input need far (far + 1) pos m v far := by
    induction m, hm using Nat.le_induction with
    | base => exact h
    | succ m _ ih => exact grows_more hlength hread hletter hneed hmiddle ih
  intro fuel state hfuel hstate
  obtain ⟨next, hyields, hgrown⟩ := (houter _ hn).2 fuel ∅ state (by omega) (Nat.zero_add _) hstate
  exact ⟨next, hyields, hgrown.stuck, hgrown.frame⟩

/-- The rule finds the comb of all letters that follow one another. -/
theorem spans_comb (hread : input.Reads pos (List.replicate (n + 1) 'a') far)
    (hletter : input.startsWith far "a".toList = false) :
    Spans T key input ((n + 2) * (input.tokens.length + 4)) far pos (.comb n) := by
  have hfar := input.remaining_le_length far
  have hpos := input.remaining_le_length pos
  -- The induction is on the letters: what follows the first one is a comb already, which the second
  -- level pairs with that letter.
  induction n generalizing pos with
  | zero =>
      have hahead := hread.lt (List.cons_ne_nil _ _)
      have hgrows : Grows T key input (input.tokens.length + 4) far (pos + 1) pos 0 .leaf far :=
        grows_letter hlength hread hahead (by omega)
      exact (spans_of_grows hlength hread hletter (by omega) (.inr ⟨rfl, rfl⟩) (Nat.zero_le _)
        (hgrows.mono (by omega))).mono (by omega)
  | succ n ih =>
      obtain ⟨middle, hfirst, hrest⟩ := hread.split_cons
      have hmiddle := hrest.lt (List.cons_ne_nil _ _)
      have hahead := hfirst.lt (List.cons_ne_nil _ _)
      have hrestSpans := ih hrest (input.remaining_le_length middle)
      have henough : input.tokens.length + 4 ≤ (n + 2) * (input.tokens.length + 4) :=
        Nat.le_mul_of_pos_left _ (by omega)
      have hgrows := grows_pair hlength hrestSpans hmiddle (by omega)
        (grows_letter hlength hfirst (by omega) (by omega))
      have hnext : (n + 1 + 2) * (input.tokens.length + 4) =
          (n + 2) * (input.tokens.length + 4) + (input.tokens.length + 4) := Nat.succ_mul _ _
      exact (spans_of_grows hlength hfirst hletter (by omega) (.inl hmiddle) (by omega)
        hgrows).mono (by omega)

end Steps

/-! ## Whole parses -/

/-- Every list begins with so many letters, and then none. -/
theorem exists_replicate_append (t : Char) (letters : List Char) :
    ∃ n rest, letters = List.replicate n t ++ rest ∧ rest.head? ≠ some t := by
  induction letters with
  | nil => exact ⟨0, [], rfl, nofun⟩
  | cons head tail ih =>
      by_cases hhead : head = t
      · obtain ⟨n, rest, rfl, hrest⟩ := ih
        exact ⟨n + 1, rest, by rw [hhead, List.replicate_succ, List.cons_append], hrest⟩
      · exact ⟨0, head :: tail, rfl, fun h => hhead (Option.some.inj h)⟩

theorem span_replicate (n : Nat) : Input.span Char.utf8Size (List.replicate n 'a') = n := by
  induction n with
  | zero => rfl
  | succ n ih =>
      have hwidth : Char.utf8Size 'a' = 1 := by decide
      rw [List.replicate_succ, Input.span, ih, hwidth, Nat.add_comm]

section Text

variable {text : String} {rest : List Char}

/-- At the start all of a text remains. -/
theorem rest_zero (text : String) : (Input.ofText text).rest 0 = text.toList := by
  have hnone : (Input.ofText text).tokens = [] ++ text.toList := rfl
  exact Input.rest_of_append hnone

/-- The letters that a text begins with are read first, and the rest stands behind them. -/
theorem reads_letters (htext : text.toList = List.replicate n 'a' ++ rest) :
    (Input.ofText text).Reads 0 (List.replicate n 'a') n ∧ (Input.ofText text).rest n = rest := by
  have hstart : (Input.ofText text).rest 0 = List.replicate n 'a' ++ rest :=
    (rest_zero text).trans htext
  have hread := Input.reads_of_rest hstart
  have hspan : 0 + Input.span (Input.ofText text).width (List.replicate n 'a') = n := by
    rw [Nat.zero_add]
    exact span_replicate n
  rw [hspan] at hread
  exact ⟨hread, List.append_cancel_left (hread.rest_eq.symm.trans hstart)⟩

variable (hlength : text.length < 2 ^ 32 - 2)

include hlength

/-- The rule comes to the comb of the letters that a text begins with. -/
theorem run_letters (htext : text.toList = List.replicate (n + 1) 'a' ++ rest)
    (hrest : rest.head? ≠ some 'a') (key : Key) (hstate : state.NoEntries) :
    ∃ next, Yields (pairing key) (Input.ofText text) Grammar.ampleFuel paired [key] 0 ∅ state
      (.comb n) (n + 1) next := by
  obtain ⟨hread, hbehind⟩ := reads_letters htext
  have hletter : (Input.ofText text).startsWith (n + 1) "a".toList = false :=
    Input.startsWith_of_head (by rwa [hbehind])
  have htokens : (Input.ofText text).tokens.length = text.length :=
    Input.length_tokens_ofText text
  have hn : n + 1 ≤ text.length := by
    have hcount := congrArg List.length htext
    simp only [String.length_toList, List.length_append, List.length_replicate] at hcount
    omega
  have hfuel : (n + 2) * ((Input.ofText text).tokens.length + 4) ≤ Grammar.ampleFuel := by
    have hbound : (n + 2) * ((Input.ofText text).tokens.length + 4) ≤ 2 ^ 33 * 2 ^ 33 :=
      Nat.mul_le_mul (by omega) (by omega)
    exact Nat.le_trans hbound (by decide)
  have hspans : Spans T key (Input.ofText text) _ (n + 1) 0 (.comb n) :=
    spans_comb (htokens ▸ hlength) hread hletter
  obtain ⟨next, hyields, -⟩ := hspans Grammar.ampleFuel state hfuel (hstate.freshFrom 0)
  exact ⟨next, hyields⟩

/-- The rule fails where a text begins with no letter. -/
theorem run_no_letter (htext : text.toList.head? ≠ some 'a') (key : Key)
    (hstate : state.NoEntries) :
    ∃ next, (pairing key).run (Input.ofText text) Grammar.ampleFuel paired 0 ∅ state =
      .done (.failure (missing key 0)) next := by
  have hletter : (Input.ofText text).startsWith 0 "a".toList = false :=
    Input.startsWith_of_head (by rwa [rest_zero text])
  have htokens : (Input.ofText text).tokens.length = text.length :=
    Input.length_tokens_ofText text
  have hremaining := (Input.ofText text).remaining_le_length 0
  have hfuel : (Input.ofText text).remaining 0 + 4 ≤ Grammar.ampleFuel := by
    rw [Grammar.ampleFuel]
    omega
  have hstuck : Stuck key 0 state := stuck_of_freshFrom (hstate.freshFrom 0) (Nat.le_refl 0)
  obtain ⟨next, hrun, -⟩ := run_stuck (htokens ▸ hlength) hletter hfuel hstuck
  exact ⟨next, hrun⟩

/-- A whole text of letters is read to its end. -/
theorem run_complete_letters (htext : text.toList = List.replicate (n + 1) 'a') (key : Key)
    (hstate : state.NoEntries) :
    ∃ next, Yields (pairing key) (Input.ofText text) Grammar.ampleFuel paired.complete [key] 0 ∅
      state (.comb n) (n + 1) next := by
  have hempty : text.toList = List.replicate (n + 1) 'a' ++ [] := by rw [htext, List.append_nil]
  obtain ⟨next, hyields⟩ := run_letters hlength hempty nofun key hstate
  have hend : (Input.ofText text).extent ≤ n + 1 := by
    have hspan := span_replicate (n + 1)
    rw [← htext] at hspan
    exact Nat.le_of_eq hspan
  exact ⟨next, hyields.zipWith (fun a (_ : Unit) => a) (Grammar.yields_eof hend)⟩

/-- If anything else follows the letters, then the end of the text is missed. -/
theorem run_complete_rest (htext : text.toList = List.replicate (n + 1) 'a' ++ rest)
    (hrest : rest.head? ≠ some 'a') (hne : rest ≠ []) (key : Key) (hstate : state.NoEntries) :
    ∃ next, Refuses (pairing key) (Input.ofText text) Grammar.ampleFuel paired.complete [key] 0 ∅
      state next := by
  obtain ⟨next, hyields⟩ := run_letters hlength htext hrest key hstate
  obtain ⟨-, hbehind⟩ := reads_letters htext
  have hend : n + 1 < (Input.ofText text).extent := by
    refine Nat.lt_of_not_le fun hle => hne ?_
    rw [← hbehind, Input.rest_of_extent_le hle]
  exact ⟨next, Refuses.zipWith_right (fun a (_ : Unit) => a) hyields (Grammar.refuses_eof hend)⟩

end Text

/-- The ambiguous rule has one parse.  Of a text that begins with letters, and then something else,
it finds the comb of these letters.  The whole text is parsed if it is nothing but letters, and in
no other case.  Where the text begins with no letter, the parse fails right there. -/
theorem pairs_parses_combs (text : String) (hlength : text.length < 2 ^ 32 - 2)
    (state : State TreeRule T) :
    (∀ n rest, text.toList = List.replicate (n + 1) 'a' ++ rest → rest.head? ≠ some 'a' →
      ∃ used after,
        Eval.building pairs (fun L => L.parse (Input.ofText text) false) state =
          .done (.success ⟨.comb n, n + 1, used⟩) after) ∧
    (∀ n, text.toList = List.replicate (n + 1) 'a' →
      ∃ used after,
        Eval.building pairs (fun L => L.parse (Input.ofText text) true) state =
          .done (.success ⟨.comb n, n + 1, used⟩) after) ∧
    ((¬ ∃ n, text.toList = List.replicate (n + 1) 'a') →
      ∃ e after,
        Eval.building pairs (fun L => L.parse (Input.ofText text) true) state =
          .done (.failure e) after) ∧
    (text.toList.head? ≠ some 'a' → ∀ consumeAll, ∃ e after,
      Eval.building pairs (fun L => L.parse (Input.ofText text) consumeAll) state =
        .done (.failure e) after ∧ e.pos = 0) := by
  obtain ⟨key, workshop, hbuilding⟩ : ∃ key workshop, ∀ consumeAll,
      Eval.building pairs (fun L => L.parse (Input.ofText text) consumeAll) state =
        (pairing key).parse Grammar.ampleFuel (Input.ofText text) consumeAll paired
          { state with workshop } := ⟨_, _, fun _ => rfl⟩
  have hclear := State.noEntries_clear { state with workshop }
  have hparse (consumeAll : Bool) {o : Outcome Tree} {middle : State TreeRule T}
      (hrun : (pairing key).run (Input.ofText text) Grammar.ampleFuel
        (if consumeAll then paired.complete else paired) 0 ∅
        (State.clear { state with workshop }) = .done o middle) :
      ∃ after, Eval.building pairs (fun L => L.parse (Input.ofText text) consumeAll) state =
        .done o after := by
    rw [hbuilding]
    exact ⟨_, Grammar.parse_eq_done.2 ⟨middle, hrun, rfl⟩⟩
  have hnone (hhead : text.toList.head? ≠ some 'a') (consumeAll : Bool) : ∃ e after,
      Eval.building pairs (fun L => L.parse (Input.ofText text) consumeAll) state =
        .done (.failure e) after ∧ e.pos = 0 := by
    obtain ⟨next, hrun⟩ := run_no_letter hlength hhead key hclear
    have hdemand : (pairing key).run (Input.ofText text) Grammar.ampleFuel
        (if consumeAll then paired.complete else paired) 0 ∅ (State.clear { state with workshop }) =
          .done (.failure (missing key 0)) next := by
      cases consumeAll with
      | false => exact hrun
      | true => exact Grammar.run_zipWith_of_failure _ _ hrun
    obtain ⟨after, hdone⟩ := hparse consumeAll hdemand
    exact ⟨_, after, hdone, rfl⟩
  refine ⟨fun n rest htext hrest => ?_, fun n htext => ?_, fun hnot => ?_, hnone⟩
  · obtain ⟨next, used, hrun, -⟩ := run_letters hlength htext hrest key hclear
    exact ⟨used, hparse false hrun⟩
  · obtain ⟨next, used, hrun, -⟩ := run_complete_letters hlength htext key hclear
    exact ⟨used, hparse true hrun⟩
  · obtain ⟨n, rest, htext, hrest⟩ := exists_replicate_append 'a' text.toList
    cases n with
    | zero =>
        have hhead : text.toList.head? ≠ some 'a' := by rwa [htext]
        obtain ⟨e, after, hdone, -⟩ := hnone hhead true
        exact ⟨e, after, hdone⟩
    | succ n =>
        have hne : rest ≠ [] := by
          rintro rfl
          exact hnot ⟨n, htext.trans (List.append_nil _)⟩
        obtain ⟨next, e, hrun, -⟩ := run_complete_rest hlength htext hrest hne key hclear
        exact ⟨e, hparse true hrun⟩

/-- Three letters and something else. -/
theorem pairs_parses_combs_aaab :
    "aaab".length < 2 ^ 32 - 2 ∧ ∃ used after,
      Eval.building pairs (fun L => L.parse (Input.ofText "aaab") false)
          (.new : State TreeRule OrderedTable) =
        .done (.success ⟨.pair .leaf (.pair .leaf .leaf), 3, used⟩) after := by
  have hlength : "aaab".length < 2 ^ 32 - 2 := by decide
  obtain ⟨hletters, -⟩ := pairs_parses_combs "aaab" hlength (.new : State TreeRule OrderedTable)
  exact ⟨hlength, hletters 2 ['b'] (by decide) (by decide)⟩

end Samples
end LeftRec
