import LeftRec.Proofs.Regions
import LeftRec.Proofs.Yields
import LeftRec.Samples.Arithmetic

/-!
# Tiers — a left-recursive level of operations

A tier is a memoized rule that is left-recursive in two operations and otherwise falls through to
its operand.  The rule descends at one position until it is curtailed; then every level on the way
out takes what the level inside has left in the table, and joins one more operation to it if a sign
follows, or hands it on if none does.  So a chain of operations is found at the level that has as
many levels inside as there are operations, and at every level around it.
-/

namespace LeftRec
namespace Samples

open Grammar (Yields Refuses yields_text refuses_text)

/-- A binary operation of a level. -/
structure Operator where
  sign : String
  written : sign.toList ≠ []
  apply : Int → Int → Except Fault Int

/-- A rule of a grammar that is left-recursive in two operations. -/
structure Tier (G : Grammar ArithmeticSignature) where
  rule : ArithmeticRule
  parity : Parity
  key : Key
  one : Operator
  other : Operator
  operand : Parser ArithmeticSignature Int
  defined : G.define rule = some (.memo (S := ArithmeticSignature) () parity key
    ((operation (.ref (S := ArithmeticSignature) rule) one.sign one.apply operand |||
      operation (.ref (S := ArithmeticSignature) rule) other.sign other.apply operand) |||
        operand))

namespace Tier

variable {G : Grammar ArithmeticSignature} (tier : Tier G)

def self : Parser ArithmeticSignature Int :=
  .ref (S := ArithmeticSignature) tier.rule

def body : Parser ArithmeticSignature Int :=
  (operation tier.self tier.one.sign tier.one.apply tier.operand |||
    operation tier.self tier.other.sign tier.other.apply tier.operand) ||| tier.operand

end Tier

variable {T : Type → Type} [MemoTable T] {G : Grammar ArithmeticSignature}
variable {input : Input ArithmeticSignature.Token} {fuel need : Nat} {keys : List Key}
variable {pos middle start stop : Nat} {ctx : Context}
variable {state between next : State ArithmeticSignature T}

/-! ## Operations -/

section Operations

variable {left right : Parser ArithmeticSignature Int} {sign : String} {a b v : Int}
variable {f : Int → Int → Except Fault Int}

/-- The right side of an operation lies further on, and runs under the empty context. -/
theorem yields_operation
    (hleft : Yields G input (fuel + 1) left keys pos ctx state a middle between)
    (hread : input.Reads middle sign.toList start) (hsign : sign.toList ≠ []) (hmoved : pos < start)
    (hright : Yields G input (fuel + 1) right keys start ∅ between b stop next)
    (hf : f a b = .ok v) :
    Yields G input (fuel + 1) (operation left sign f right) keys pos ctx state v stop next := by
  have hsigned := hleft.zipWith (fun a _ => a) (yields_text hread hsign)
  have hempty : ctx.carried pos start = ∅ := if_neg (Nat.ne_of_lt hmoved)
  rw [← hempty] at hright
  exact (hsigned.zipWith Prod.mk hright).tryMap hf

theorem refuses_operation_left
    (hleft : Refuses G input (fuel + 1) left keys pos ctx state next) :
    Refuses G input (fuel + 1) (operation left sign f right) keys pos ctx state next :=
  ((hleft.zipWith_left (fun a _ => a) (.text sign)).zipWith_left Prod.mk right).tryMap _

theorem refuses_operation_sign (f : Int → Int → Except Fault Int)
    (right : Parser ArithmeticSignature Int)
    (hleft : Yields G input (fuel + 1) left keys pos ctx state a middle next)
    (hsign : input.startsWith middle sign.toList = false) :
    Refuses G input (fuel + 1) (operation left sign f right) keys pos ctx state next := by
  have hsigned := Refuses.zipWith_right (fun a (_ : String) => a) hleft (refuses_text hsign)
  exact (hsigned.zipWith_left Prod.mk right).tryMap _

end Operations

/-! ## Operands -/

/-- Wherever the entries of a stretch are still the same, the parser finds the value again and
leaves the table as it is. -/
def Known (G : Grammar ArithmeticSignature) (input : Input ArithmeticSignature.Token) (need : Nat)
    (keys : List Key) (pos : Nat) (p : Parser ArithmeticSignature Int) (v : Int) (stop : Nat)
    (state : State ArithmeticSignature T) : Prop :=
  ∀ fuel ctx later, need ≤ fuel → state.SameOn (Inside keys pos stop) later →
    ∃ next, Yields G input fuel p keys pos ctx later v stop next ∧ next.memo = later.memo

/-- Where nothing has been entered yet and none of the keys is tracked, the parser finds the value,
keeps to its stretch of the table and finds the value again. -/
structure Finds (T : Type → Type) [MemoTable T] (G : Grammar ArithmeticSignature)
    (input : Input ArithmeticSignature.Token) (need : Nat) (keys : List Key) (pos : Nat)
    (p : Parser ArithmeticSignature Int) (v : Int) (stop : Nat) : Prop where
  ahead : pos < stop
  run : ∀ (fuel : Nat) (ctx : Context) (state : State ArithmeticSignature T), need ≤ fuel →
    ctx.Untracked keys → state.FreshFrom pos →
      ∃ next, Yields G input fuel p keys pos ctx state v stop next ∧
        state.SameOn (fun slot => ¬ Inside keys pos stop slot) next ∧
        Known G input need keys pos p v stop next

theorem Known.of_sameOn {p : Parser ArithmeticSignature Int} {v : Int}
    (h : Known G input need keys pos p v stop state)
    (hsame : state.SameOn (Inside keys pos stop) next) :
    Known G input need keys pos p v stop next :=
  fun fuel ctx later hfuel hlater => h fuel ctx later hfuel (hsame.trans hlater)

theorem Finds.mono {p : Parser ArithmeticSignature Int} {v : Int} {more : Nat}
    (h : Finds T G input need keys pos p v stop) (hmore : need ≤ more) :
    Finds T G input more keys pos p v stop where
  ahead := h.ahead
  run fuel ctx state hfuel hctx hstate := by
    obtain ⟨next, hyields, hsame, hknown⟩ :=
      h.run fuel ctx state (Nat.le_trans hmore hfuel) hctx hstate
    refine ⟨next, hyields, hsame, fun fuel ctx later hfuel hlater => ?_⟩
    exact hknown fuel ctx later (Nat.le_trans hmore hfuel) hlater

/-! ## Levels -/

namespace Tier

variable (tier : Tier G) {n : Nat} {v w : Int} {far : Nat}

/-- A stored success that may be reused is found. -/
theorem yields_stored {used : Used} {under : Context}
    (fuel : Nat) (hentry : state.lookup () tier.key pos = some (.success ⟨v, stop, used⟩, under))
    (hreuse : ctx.canReuse under = true) (hused : ∀ key ∈ used, key ∈ keys) :
    ∃ next, Yields G input (fuel + 2) tier.self keys pos ctx state v stop next ∧
      next.memo = state.memo := by
  refine ⟨state.note (.hit tier.key pos), ⟨used, ?_, hused⟩, rfl⟩
  have hself : (G.run input (fuel + 2) tier.self : Run ArithmeticSignature T Int) =
      Run.memo (S := ArithmeticSignature) input () tier.parity tier.key
        (G.run input (fuel + 1) tier.body) := Grammar.run_memoized tier.defined fuel
  rw [hself]
  exact Run.memo_of_hit hentry hreuse

variable [LawfulMemoTable T]

/-- What a level has come to: its entry is stored, nothing outside its stretch has changed, and what
its operand has found at its start is still known. -/
structure Reached (input : Input ArithmeticSignature.Token) (need : Nat) (keys : List Key)
    (pos : Nat) (v : Int) (stop : Nat) (ctx : Context) (state next : State ArithmeticSignature T) :
    Prop where
  entry : ∃ used : Used, next.lookup () tier.key pos =
      some (.success ⟨v, stop, used⟩, ctx.pruned used) ∧ ∀ key ∈ used, key ∈ tier.key :: keys
  frame : state.SameOn (fun slot => ¬ Inside (tier.key :: keys) pos stop slot) next
  base : ∃ first start, (start < stop ∨ first = v ∧ start = stop) ∧
      Known G input need keys pos tier.operand first start next

/-- The level with so many levels inside before the one that is curtailed comes to the value. -/
def Reaches (T : Type → Type) [MemoTable T] [LawfulMemoTable T]
    (input : Input ArithmeticSignature.Token) (need : Nat) (keys : List Key) (pos n : Nat) (v : Int)
    (stop : Nat) : Prop :=
  pos < stop ∧ ∀ (fuel : Nat) (ctx : Context) (state : State ArithmeticSignature T),
    need + n + 1 ≤ fuel → ctx.depth tier.key + n = input.remaining pos + 1 → ctx.Untracked keys →
      state.FreshFrom pos →
        ∃ next, Yields G input fuel tier.self (tier.key :: keys) pos ctx state v stop next ∧
          tier.Reached input need keys pos v stop ctx state next

variable {tier}

/-- A level that keeps a success of its body has reached it. -/
theorem reached_of_kept (hlength : input.tokens.length < 2 ^ 32 - 2) (hkey : tier.key ∉ keys)
    (hstate : state.FreshFrom pos) (hdepth : ctx.depth tier.key ≤ input.remaining pos + 1)
    {fresh : Outcome Int} {used : Used}
    (hbody : G.run input (fuel + 1) tier.body pos
      (ctx.withDepth tier.key (ctx.depth tier.key + 1)) state = .done fresh between)
    (hkept : (Run.keep (S := ArithmeticSignature) input () tier.parity tier.key pos ctx fresh
      between).1 = .success ⟨v, stop, used⟩)
    (hused : ∀ key ∈ used, key ∈ tier.key :: keys)
    (hframe : state.SameOn (fun slot => ¬ Inside (tier.key :: keys) pos stop slot) between)
    (hbase : ∃ first start, (start < stop ∨ first = v ∧ start = stop) ∧
      Known G input need keys pos tier.operand first start between) :
    ∃ next, Yields G input (fuel + 2) tier.self (tier.key :: keys) pos ctx state v stop next ∧
      tier.Reached input need keys pos v stop ctx state next := by
  have hentry := hstate () tier.key pos (Nat.le_refl pos)
  obtain ⟨kept, next, hdone, hsame, hstored, hkeepFrame⟩ :=
    Grammar.run_kept tier.defined hlength hentry hdepth hbody
  obtain rfl : kept = .success ⟨v, stop, used⟩ := hsame.symm.trans hkept
  refine ⟨next, ⟨used, hdone, hused⟩, ⟨used, hstored, hused⟩, ?_, ?_⟩
  · refine hframe.trans (hkeepFrame.mono fun slot houtside hslot => houtside ?_)
    exact hslot ▸ .inr ⟨rfl, List.mem_cons_self⟩
  · obtain ⟨first, start, hstart, hknown⟩ := hbase
    exact ⟨first, start, hstart, hknown.of_sameOn
      (hkeepFrame.mono fun slot hinside hslot => Inside.not_at hkey (hslot ▸ hinside))⟩

/-- The level around the one that is curtailed finds its operand only. -/
theorem reaches_operand (hlength : input.tokens.length < 2 ^ 32 - 2) (hkey : tier.key ∉ keys)
    (hneed : 2 ≤ need) (h : Finds T G input need keys pos tier.operand v stop) :
    tier.Reaches T input need keys pos 0 v stop := by
  refine ⟨h.ahead, fun fuel ctx state hfuel hdepth hctx hstate => ?_⟩
  obtain ⟨fuel, rfl⟩ : ∃ f, fuel = f + 3 := ⟨fuel - 3, by omega⟩
  have hinner : Run.depthBound (input.remaining pos) <
      (ctx.withDepth tier.key (ctx.depth tier.key + 1)).depth tier.key := by
    rw [Context.depth_withDepth, if_pos rfl]
    simp only [Run.depthBound]
    omega
  -- Both operations begin with the rule itself, which is curtailed one level deeper.
  have hnone := hstate () tier.key pos (Nat.le_refl pos)
  have hself : tier.key ∈ tier.key :: keys := List.mem_cons_self
  obtain ⟨first, hfirst, hfirstMemo⟩ :=
    Grammar.refuses_curtailed tier.defined fuel hself hnone hinner
  have hfirstState := hstate.of_memo hfirstMemo
  obtain ⟨second, hsecond, hsecondMemo⟩ :=
    Grammar.refuses_curtailed tier.defined fuel hself
      (hfirstState () tier.key pos (Nat.le_refl pos)) hinner
  obtain ⟨next, hoperand, hsame, hknown⟩ := h.run (fuel + 2) _ second (by omega)
    (hctx.withDepth hkey (ctx.depth tier.key + 1)) (hfirstState.of_memo hsecondMemo)
  have hbody : Yields G input (fuel + 2) tier.body (tier.key :: keys) pos
      (ctx.withDepth tier.key (ctx.depth tier.key + 1)) state v stop next :=
    Yields.alt_right
      (Refuses.alt (refuses_operation_left hfirst) (refuses_operation_left hsecond))
      (hoperand.mono (fun key hmem => List.mem_cons_of_mem _ hmem) (Nat.le_refl _))
  obtain ⟨used, hrun, hused⟩ := hbody
  have hmemo : second.memo = state.memo := hsecondMemo.trans hfirstMemo
  have hframe : state.SameOn (fun slot => ¬ Inside keys pos stop slot) next :=
    (State.SameOn.of_memo hmemo).trans hsame
  -- The operand's stretch does not have the rule's own slot, so there is no entry to compare with.
  have hempty : next.lookup () tier.key pos = none :=
    (hframe () tier.key pos (Inside.not_at hkey)).trans hnone
  refine reached_of_kept hlength hkey hstate (by omega) hrun (Run.keep_of_furthest ?_) hused
    (hframe.mono fun slot houtside hinside => houtside ?_) ⟨v, stop, .inr ⟨rfl, rfl⟩, hknown⟩
  · intro stored under hlookup
    rw [hempty] at hlookup
    cases hlookup
  · exact hinside.mono (fun key hmem => List.mem_cons_of_mem _ hmem) (Nat.le_refl _)

/-- One level further out, the body runs on what the level inside has left.  It either joins more to
what was found there, or falls back on something that is not better. -/
theorem reaches_succ (hlength : input.tokens.length < 2 ^ 32 - 2) (hkey : tier.key ∉ keys)
    (h : tier.Reaches T input need keys pos n v stop) (hstop : stop < far ∨ v = w ∧ stop = far)
    (hbody : ∀ (fuel : Nat) (ctx : Context) (state between : State ArithmeticSignature T),
      need ≤ fuel + 1 → state.FreshFrom pos →
      Yields G input (fuel + 1) tier.self (tier.key :: keys) pos ctx state v stop between →
      tier.Reached input need keys pos v stop ctx state between →
        ∃ next last final, Yields G input (fuel + 1) tier.body (tier.key :: keys) pos ctx state last
            final next ∧
          (stop < final ∧ last = w ∧ final = far ∨
            final ≤ stop ∧ (final = stop → last = v) ∧ v = w ∧ stop = far) ∧
          between.SameOn (fun slot => slot.2 ≤ stop ∨ far ≤ slot.2) next) :
    tier.Reaches T input need keys pos (n + 1) w far := by
  obtain ⟨hahead, hlevel⟩ := h
  have hfar : stop ≤ far := by omega
  refine ⟨by omega, fun fuel ctx state hfuel hdepth hctx hstate => ?_⟩
  obtain ⟨fuel, rfl⟩ : ∃ f, fuel = f + 2 := ⟨fuel - 2, by omega⟩
  have hinner : (ctx.withDepth tier.key (ctx.depth tier.key + 1)).depth tier.key + n =
      input.remaining pos + 1 := by
    rw [Context.depth_withDepth, if_pos rfl]
    omega
  obtain ⟨between, hself, hreached⟩ := hlevel (fuel + 1) _ state (by omega) hinner
    (hctx.withDepth hkey (ctx.depth tier.key + 1)) hstate
  obtain ⟨next, last, final, ⟨fresh, hrun, hfresh⟩, hcases, hsame⟩ :=
    hbody fuel _ state between (by omega) hstate hself hreached
  -- The body leaves the entry of the level inside and what its operand has found.
  obtain ⟨used, hentry, hused⟩ := hreached.entry
  have hstored : next.lookup () tier.key pos = some (.success ⟨v, stop, used⟩, _) :=
    (hsame () tier.key pos (.inl (Nat.le_of_lt hahead))).trans hentry
  have hbase : ∃ first start, (start < far ∨ first = w ∧ start = far) ∧
      Known G input need keys pos tier.operand first start next := by
    obtain ⟨first, start, hstart, hknown⟩ := hreached.base
    refine ⟨first, start, ?_, hknown.of_sameOn (hsame.mono fun slot hinside => .inl ?_)⟩
    · rcases hstop with hlt | ⟨rfl, rfl⟩
      · left
        omega
      · exact hstart
    · rcases hinside with ⟨-, hto⟩ | ⟨hat, -⟩ <;> omega
  have hframe : state.SameOn (fun slot => ¬ Inside (tier.key :: keys) pos far slot) next := by
    have hlevel : state.SameOn (fun slot => ¬ Inside (tier.key :: keys) pos far slot) between :=
      hreached.frame.mono fun slot houtside hinside =>
        houtside (hinside.mono (fun _ hmem => hmem) hfar)
    refine hlevel.trans (hsame.mono fun slot houtside => ?_)
    by_contra hbetween
    exact houtside (.inl ⟨by omega, by omega⟩)
  -- A body that got further replaces the entry.  One that fell short leaves it, and one that ended
  -- at the same position has the same value, so it does not matter which of the two is kept.
  rcases hcases with ⟨hlonger, rfl, rfl⟩ | ⟨hshort, hequal, rfl, rfl⟩
  · refine reached_of_kept hlength hkey hstate (by omega) hrun (Run.keep_of_furthest ?_) hfresh
      hframe hbase
    intro stored under hlookup
    rw [hstored] at hlookup
    cases hlookup
    exact Nat.le_of_lt hlonger
  · rcases Nat.lt_or_eq_of_le hshort with hshorter | rfl
    · exact reached_of_kept hlength hkey hstate (by omega) hrun
        (Run.keep_of_further hstored hshorter) hused hframe hbase
    · obtain rfl := hequal rfl
      refine reached_of_kept hlength hkey hstate (by omega) hrun (Run.keep_of_furthest ?_) hfresh
        hframe hbase
      intro stored under hlookup
      rw [hstored] at hlookup
      cases hlookup
      exact Nat.le_refl _

/-! ### What follows a level -/

/-- An operator's sign stands at `stop`, and behind it the operand that makes `w` out of `v`. -/
def Follows (T : Type → Type) [MemoTable T] (tier : Tier G)
    (input : Input ArithmeticSignature.Token) (need : Nat) (keys : List Key) (stop : Nat)
    (operator : Operator) (v w : Int) (far : Nat) : Prop :=
  ∃ start b, input.Reads stop operator.sign.toList start ∧
    Finds T G input need keys start tier.operand b far ∧ operator.apply v b = .ok w

/-- No operator's sign stands at a position. -/
def EndsAt (tier : Tier G) (input : Input ArithmeticSignature.Token) (stop : Nat) : Prop :=
  input.startsWith stop tier.one.sign.toList = false ∧
    input.startsWith stop tier.other.sign.toList = false

omit [LawfulMemoTable T] in
theorem Follows.lt {operator : Operator}
    (h : Follows T tier input need keys stop operator v w far) : stop < far := by
  obtain ⟨start, b, hread, hfinds, -⟩ := h
  exact Nat.lt_trans (hread.lt operator.written) hfinds.ahead

omit [LawfulMemoTable T] in
/-- An operation is joined to what the rule itself has found. -/
theorem Follows.yields {operator : Operator}
    (h : Follows T tier input need keys stop operator v w far) (hahead : pos < stop)
    (hfuel : need ≤ fuel + 1)
    (hself : Yields G input (fuel + 1) tier.self (tier.key :: keys) pos ctx state v stop between)
    (hfresh : between.FreshFrom stop) :
    ∃ next, Yields G input (fuel + 1)
        (operation tier.self operator.sign operator.apply tier.operand) (tier.key :: keys) pos ctx
        state w far next ∧
      between.SameOn (fun slot => slot.2 ≤ stop ∨ far ≤ slot.2) next := by
  obtain ⟨start, b, hread, hfinds, hw⟩ := h
  have hstart := hread.lt operator.written
  have hbehind : between.FreshFrom start :=
    fun kind key there hthere => hfresh kind key there (by omega)
  have hfar := hfinds.ahead
  obtain ⟨next, hright, hsame, -⟩ := hfinds.run (fuel + 1) ∅ between hfuel
    (Context.untracked_empty keys) hbehind
  refine ⟨next, ?_, hsame.mono fun slot hslot hinside => ?_⟩
  · exact yields_operation hself hread operator.written (by omega)
      (hright.mono (fun _ hmem => List.mem_cons_of_mem _ hmem) (Nat.le_refl _)) hw
  · rcases hinside with ⟨hfrom, hto⟩ | ⟨hat, -⟩ <;> omega

omit [LawfulMemoTable T] in
/-- The level finds once more what it has stored. -/
theorem Reached.again (h : tier.Reached input need keys pos v stop ctx state between)
    {fuel : Nat} (hfuel : 2 ≤ fuel) :
    ∃ next, Yields G input fuel tier.self (tier.key :: keys) pos ctx between v stop next ∧
      next.memo = between.memo := by
  obtain ⟨left, rfl⟩ : ∃ n, fuel = n + 2 := ⟨fuel - 2, by omega⟩
  obtain ⟨used, hentry, hused⟩ := h.entry
  exact tier.yields_stored left hentry (ctx.canReuse_pruned used) hused

/-- The first operator's sign follows. -/
theorem reaches_one (hlength : input.tokens.length < 2 ^ 32 - 2) (hkey : tier.key ∉ keys)
    (h : tier.Reaches T input need keys pos n v stop)
    (hone : Follows T tier input need keys stop tier.one v w far) :
    tier.Reaches T input need keys pos (n + 1) w far := by
  have hahead := h.1
  refine reaches_succ hlength hkey h (.inl hone.lt) ?_
  intro fuel ctx state between hfuel hstate hself hreached
  have hfresh := hstate.after_inside hahead hreached.frame (Nat.le_refl stop)
  obtain ⟨next, hyields, hsame⟩ := hone.yields hahead hfuel hself hfresh
  have hbody : Yields G input (fuel + 1) tier.body (tier.key :: keys) pos ctx state w far next :=
    (hyields.alt_left _).alt_left _
  exact ⟨next, w, far, hbody, .inl ⟨hone.lt, rfl, rfl⟩, hsame⟩

/-- The second operator's sign follows, and the first operator's does not. -/
theorem reaches_other (hlength : input.tokens.length < 2 ^ 32 - 2) (hkey : tier.key ∉ keys)
    (hneed : 2 ≤ need) (h : tier.Reaches T input need keys pos n v stop)
    (hone : input.startsWith stop tier.one.sign.toList = false)
    (hother : Follows T tier input need keys stop tier.other v w far) :
    tier.Reaches T input need keys pos (n + 1) w far := by
  have hahead := h.1
  refine reaches_succ hlength hkey h (.inl hother.lt) ?_
  intro fuel ctx state between hfuel hstate hself hreached
  have hrefuses := refuses_operation_sign tier.one.apply tier.operand hself hone
  -- The second operation finds the rule's own entry, and nothing has changed by that.
  obtain ⟨again, hagain, hmemo⟩ := hreached.again (Nat.le_trans hneed hfuel)
  have hfresh := hstate.after_inside hahead hreached.frame (Nat.le_refl stop)
  obtain ⟨next, hyields, hsame⟩ :=
    hother.yields hahead hfuel hagain (hfresh.of_memo hmemo)
  have hbody : Yields G input (fuel + 1) tier.body (tier.key :: keys) pos ctx state w far next :=
    (Yields.alt_right hrefuses hyields).alt_left _
  exact ⟨next, w, far, hbody, .inl ⟨hother.lt, rfl, rfl⟩, (State.SameOn.of_memo hmemo).trans hsame⟩

/-- No sign follows, so the level comes to what the level inside has found. -/
theorem reaches_more (hlength : input.tokens.length < 2 ^ 32 - 2) (hkey : tier.key ∉ keys)
    (hneed : 2 ≤ need) (hends : tier.EndsAt input stop)
    (h : tier.Reaches T input need keys pos n v stop) :
    tier.Reaches T input need keys pos (n + 1) v stop := by
  obtain ⟨hone, hother⟩ := hends
  refine reaches_succ hlength hkey h (.inr ⟨rfl, rfl⟩) ?_
  intro fuel ctx state between hfuel hstate hself hreached
  have hfirst := refuses_operation_sign tier.one.apply tier.operand hself hone
  obtain ⟨again, hagain, hmemo⟩ := hreached.again (Nat.le_trans hneed hfuel)
  have hsecond :=
    refuses_operation_sign tier.other.apply tier.operand hagain hother
  -- Both signs are missed, so the body falls back on its operand, which the innermost level knows.
  obtain ⟨first, start, hstart, hknown⟩ := hreached.base
  obtain ⟨next, hoperand, hnext⟩ := hknown (fuel + 1) ctx again hfuel (.of_memo hmemo)
  have hbody : Yields G input (fuel + 1) tier.body (tier.key :: keys) pos ctx state first start
      next :=
    Yields.alt_right (Refuses.alt hfirst hsecond)
      (hoperand.mono (fun _ hmem => List.mem_cons_of_mem _ hmem) (Nat.le_refl _))
  refine ⟨next, first, start, hbody, .inr ⟨?_, ?_, rfl, rfl⟩, .of_memo (hnext.trans hmemo)⟩
  · rcases hstart with hlt | ⟨-, rfl⟩
    · exact Nat.le_of_lt hlt
    · exact Nat.le_refl _
  · intro heq
    rcases hstart with hlt | ⟨hfirst, -⟩
    · exact absurd heq (Nat.ne_of_lt hlt)
    · exact hfirst

/-- Once no sign follows, all levels further out come to the same. -/
theorem reaches_of_le (hlength : input.tokens.length < 2 ^ 32 - 2) (hkey : tier.key ∉ keys)
    (hneed : 2 ≤ need) (hends : tier.EndsAt input stop)
    (h : tier.Reaches T input need keys pos n v stop) {m : Nat} (hm : n ≤ m) :
    tier.Reaches T input need keys pos m v stop := by
  induction m, hm using Nat.le_induction with
  | base => exact h
  | succ m _ ih => exact reaches_more hlength hkey hneed hends ih

/-- The outermost level is the rule run where it is not tracked.  Its entry depends on nothing that
is tracked, so the rule itself may be an operand. -/
theorem finds_self (hneed : 2 ≤ need)
    (h : tier.Reaches T input need keys pos (input.remaining pos + 1) v stop) :
    Finds T G input (need + input.remaining pos + 2) (tier.key :: keys) pos tier.self v stop where
  ahead := h.1
  run fuel ctx state hfuel hctx hstate := by
    have hdepth : ctx.depth tier.key = 0 := by
      rw [Context.depth, hctx tier.key List.mem_cons_self]
      rfl
    obtain ⟨next, hyields, hreached⟩ := h.2 fuel ctx state (by omega) (by omega)
      (hctx.mono fun _ hmem => List.mem_cons_of_mem _ hmem) hstate
    refine ⟨next, hyields, hreached.frame, fun fuel ctx' later hfuel hlater => ?_⟩
    obtain ⟨used, hentry, hused⟩ := hreached.entry
    -- None of the used keys is tracked, so pruning leaves nothing of the context.
    rw [hctx.pruned hused] at hentry
    have hstored : later.lookup () tier.key pos = some (.success ⟨v, stop, used⟩, ∅) :=
      (hlater () tier.key pos (.inr ⟨rfl, List.mem_cons_self⟩)).trans hentry
    obtain ⟨left, rfl⟩ : ∃ n, fuel = n + 2 := ⟨fuel - 2, by omega⟩
    exact tier.yields_stored left hstored rfl hused

end Tier

end Samples
end LeftRec
