import LeftRec.Proofs.Alternation
import LeftRec.Proofs.Yields

/-!
# Turns — two rules that grow each other's derivations

At one position, `s` runs `t` and `t` runs `s`, until `s` is curtailed.  On the way out the rules
take turns: each one puts its letter behind what the other has found, so that the derivation grows
by a letter at every turn until it has come to the end of the word.

From there on the partner finds no letter to go on with.  It falls back on its own letter at the
start of the word, but a success that it has stored reaches as far; if it has none, it fails, and
then the rule falls back on its own letter.  Whichever it is, the rule's own stored success is
further, so it is handed on by every turn to the outermost one.
-/

namespace LeftRec
namespace Samples

open Grammar (Yields Refuses yields_text refuses_text)

namespace IndirectRule

/-- The letter as text. -/
def sign : IndirectRule → String
  | .s => "c"
  | .t => "d"

theorem toList_sign (rule : IndirectRule) : rule.sign.toList = [rule.letter] := by
  cases rule <;> rfl

theorem toList_sign_ne_nil (rule : IndirectRule) : rule.sign.toList ≠ [] := by
  cases rule <;> decide

/-- The partner and the rule's letter, or the letter alone. -/
def body (rule : IndirectRule) : Parser IndirectSignature String :=
  (((Parser.ref (S := IndirectSignature) rule.partner).skip (.text rule.sign)).map rule.enclose) |||
    .text rule.sign

theorem defined (parity : Parity) (keyOf : IndirectRule → Key) (rule : IndirectRule) :
    (indirectGrammar parity (keyOf .t) (keyOf .s)).define rule =
      some (.memo (S := IndirectSignature) () parity (keyOf rule) rule.body) := by
  cases rule <;> rfl

end IndirectRule

variable {T : Type → Type} [MemoTable T] {parity : Parity} {keyOf : IndirectRule → Key}
variable {input : Input IndirectSignature.Token} {rule : IndirectRule} {n pos stop far fuel : Nat}
variable {ctx : Context} {state between next : State IndirectSignature T}

/-! ## Depths -/

/-- The context of the `n`-th turn, counted from the innermost one, where `s` is curtailed within a
`t`.  As `s` runs first, it is one deeper than `t` where that is run. -/
def AtTurn (keyOf : IndirectRule → Key) (remaining : Nat) : IndirectRule → Nat → Context → Prop
  | .s, n, ctx => ctx.depth (keyOf .s) = ctx.depth (keyOf .t) ∧
      2 * ctx.depth (keyOf .s) + n = 2 * remaining + 3
  | .t, n, ctx => ctx.depth (keyOf .s) = ctx.depth (keyOf .t) + 1 ∧
      2 * ctx.depth (keyOf .t) + n = 2 * remaining + 2

/-- One turn deeper. -/
def deeper (keyOf : IndirectRule → Key) (rule : IndirectRule) (ctx : Context) : Context :=
  ctx.withDepth (keyOf rule) (ctx.depth (keyOf rule) + 1)

namespace AtTurn

variable {remaining : Nat}

theorem depth_le (h : AtTurn keyOf remaining rule n ctx) :
    ctx.depth (keyOf rule) ≤ remaining + 1 := by
  cases rule with
  | s =>
      obtain ⟨-, hcount⟩ := h
      omega
  | t =>
      obtain ⟨-, hcount⟩ := h
      omega

theorem inner (hkeys : keyOf .s ≠ keyOf .t) (h : AtTurn keyOf remaining rule (n + 1) ctx) :
    AtTurn keyOf remaining rule.partner n (deeper keyOf rule ctx) := by
  cases rule with
  | s =>
      obtain ⟨hsame, hcount⟩ := h
      simp only [IndirectRule.partner, AtTurn, deeper, Context.depth_withDepth, if_neg hkeys.symm,
        if_pos]
      omega
  | t =>
      obtain ⟨hsame, hcount⟩ := h
      simp only [IndirectRule.partner, AtTurn, deeper, Context.depth_withDepth, if_neg hkeys,
        if_pos]
      omega

/-- The innermost `t` finds `s` beyond its bound. -/
theorem curtailed (hkeys : keyOf .s ≠ keyOf .t) (h : AtTurn keyOf remaining .t 0 ctx) :
    Run.depthBound remaining < (deeper keyOf .t ctx).depth (keyOf .s) := by
  obtain ⟨hsame, hcount⟩ := h
  simp only [deeper, Context.depth_withDepth, if_neg hkeys, Run.depthBound]
  omega

/-- Where no rule is tracked, `s` is outermost. -/
theorem outermost : AtTurn keyOf remaining .s (2 * remaining + 3) ∅ :=
  ⟨rfl, Nat.zero_add _⟩

end AtTurn

/-! ## Verdicts -/

/-- The keys of both rules. -/
def keysOf (keyOf : IndirectRule → Key) : List Key :=
  [keyOf .s, keyOf .t]

theorem mem_keysOf (keyOf : IndirectRule → Key) (rule : IndirectRule) :
    keyOf rule ∈ keysOf keyOf := by
  cases rule <;> simp [keysOf]

/-- The parser succeeds where the verdict says, or refuses if it says no place. -/
def Comes (G : Grammar IndirectSignature) (input : Input IndirectSignature.Token) (fuel : Nat)
    (p : Parser IndirectSignature String) (keys : List Key) (pos : Nat) (ctx : Context)
    (state : State IndirectSignature T) (next : State IndirectSignature T) : Option Nat → Prop
  | some stop => ∃ v, Yields G input fuel p keys pos ctx state v stop next
  | none => Refuses G input fuel p keys pos ctx state next

/-- The table holds a success that ends where the verdict says, or none. -/
def Holds (keys : List Key) (stored : Option (Outcome String × Context)) : Option Nat → Prop
  | some stop => ∃ v used under, stored = some (.success ⟨v, stop, used⟩, under) ∧
      ∀ key ∈ used, key ∈ keys
  | none => ∀ s under, stored ≠ some (.success s, under)

theorem holds_none (keys : List Key) : Holds keys none none := by
  intro s under h
  cases h

/-- Of a fresh and a stored success the one that ends further on is kept; a fresh failure is kept
unless the stored success is. -/
def Kept (stored kept : Option Nat) : Option Nat → Prop
  | some stop => kept = some (stored.elim stop (max stop))
  | none => kept = none ∨ kept = stored

/-- What the letter alone comes to. -/
def Begins (input : Input IndirectSignature.Token) (pos : Nat) (rule : IndirectRule) :
    Option Nat → Prop
  | some stop => input.Reads pos rule.sign.toList stop
  | none => input.startsWith pos rule.sign.toList = false

theorem exists_begins (input : Input IndirectSignature.Token) (pos : Nat) (rule : IndirectRule) :
    ∃ verdict, Begins input pos rule verdict := by
  cases hstarts : input.startsWith pos rule.sign.toList with
  | false => exact ⟨none, hstarts⟩
  | true => exact ⟨some _, Input.reads_of_startsWith hstarts⟩

section Bodies

variable {G : Grammar IndirectSignature} {keys : List Key} {verdict : Option Nat}

theorem comes_sign (h : Begins input pos rule verdict) :
    Comes G input (fuel + 1) (.text rule.sign) keys pos ctx state state verdict := by
  cases verdict with
  | none => exact refuses_text h
  | some stop => exact ⟨_, yields_text h rule.toList_sign_ne_nil⟩

/-- The letter follows what the partner has found. -/
theorem comes_longer
    (hpartner : Comes G input (fuel + 1) (.ref (S := IndirectSignature) rule.partner) keys pos ctx
      state between (some stop))
    (hread : input.Reads stop rule.sign.toList far) :
    Comes G input (fuel + 1) rule.body keys pos ctx state between (some far) := by
  obtain ⟨v, hv⟩ := hpartner
  have hboth := hv.zipWith (fun a (_ : String) => a) (yields_text hread rule.toList_sign_ne_nil)
  have hlonger := hboth.tryMap (f := fun inner => .ok (rule.enclose inner)) rfl
  exact ⟨_, hlonger.alt_left _⟩

/-- The partner refuses, or the letter does not follow what it has found, and so there is only the
letter alone. -/
theorem comes_alone (found : Option Nat)
    (hpartner : Comes G input (fuel + 1) (.ref (S := IndirectSignature) rule.partner) keys pos ctx
      state between found)
    (hstuck : ∀ stop ∈ found, input.startsWith stop rule.sign.toList = false)
    (hbegins : Begins input pos rule verdict) :
    Comes G input (fuel + 1) rule.body keys pos ctx state between verdict := by
  have hrefuses : Refuses G input (fuel + 1)
      (((Parser.ref (S := IndirectSignature) rule.partner).skip (.text rule.sign)).map rule.enclose)
      keys pos ctx state between := by
    refine Refuses.tryMap _ ?_
    cases found with
    | none => exact Refuses.zipWith_left _ _ hpartner
    | some stop =>
        obtain ⟨v, hv⟩ := hpartner
        exact Refuses.zipWith_right _ hv (refuses_text (hstuck stop rfl))
  have hsign : Comes G input (fuel + 1) (.text rule.sign) keys pos ctx between between verdict :=
    comes_sign hbegins
  cases verdict with
  | none => exact hrefuses.alt hsign
  | some stop =>
      obtain ⟨v, hv⟩ := hsign
      exact ⟨v, Yields.alt_right hrefuses hv⟩

end Bodies

/-! ## What a rule keeps -/

/-- The outcome is a success that ends where the verdict says, or a failure after which an
alternative may be tried. -/
def Shows (keys : List Key) (o : Outcome String) : Option Nat → Prop
  | some stop => ∃ v used, o = .success ⟨v, stop, used⟩ ∧ ∀ key ∈ used, key ∈ keys
  | none => ∃ e, o = .failure e ∧ e.isFatal = false ∧ ∀ key ∈ e.used, key ∈ keys

theorem comes_iff {G : Grammar IndirectSignature} {p : Parser IndirectSignature String}
    {keys : List Key} {verdict : Option Nat} :
    Comes G input fuel p keys pos ctx state next verdict ↔
      ∃ o, G.run input fuel p pos ctx state = .done o next ∧ Shows keys o verdict := by
  constructor
  · intro h
    cases verdict with
    | none =>
        obtain ⟨e, hrun, he⟩ := h
        exact ⟨_, hrun, e, rfl, he⟩
    | some stop =>
        obtain ⟨v, used, hrun, hused⟩ := h
        exact ⟨_, hrun, v, used, rfl, hused⟩
  · rintro ⟨o, hrun, ho⟩
    cases verdict with
    | none =>
        obtain ⟨e, rfl, he⟩ := ho
        exact ⟨e, hrun, he⟩
    | some stop =>
        obtain ⟨v, used, rfl, hused⟩ := ho
        exact ⟨v, used, hrun, hused⟩

theorem Shows.holds {keys : List Key} {o : Outcome String} {verdict : Option Nat}
    (h : Shows keys o verdict) (under : Context) : Holds keys (some (o, under)) verdict := by
  cases verdict with
  | none =>
      obtain ⟨e, rfl, -⟩ := h
      intro s under' heq
      cases heq
  | some stop =>
      obtain ⟨v, used, rfl, hused⟩ := h
      exact ⟨v, used, under, rfl, hused⟩

variable (input parity ctx) in
/-- Of two successes the one that ends further on is kept. -/
theorem shows_keep {keys : List Key} {key : Key} {stored fresh : Option Nat} {o : Outcome String}
    (hstored : Holds keys (between.lookup () key pos) stored) (hfresh : Shows keys o fresh) :
    ∃ kept, Kept stored kept fresh ∧
      Shows keys (Run.keep (S := IndirectSignature) input () parity key pos ctx o between).1
        kept := by
  cases fresh with
  | none =>
      -- The parity and the context decide whether a stored success is taken in its place.
      have hcases :
          (Run.keep (S := IndirectSignature) input () parity key pos ctx o between).1 = o ∨
          ∃ s under, between.lookup () key pos = some (.success s, under) ∧
            (Run.keep (S := IndirectSignature) input () parity key pos ctx o between).1 =
              .success s := Run.keep_fst_cases input parity key pos ctx o between
      rcases hcases with hkept | ⟨s, under, hlookup, hkept⟩
      · refine ⟨none, .inl rfl, ?_⟩
        rw [hkept]
        exact hfresh
      · cases stored with
        | none => exact absurd hlookup (hstored s under)
        | some far =>
            obtain ⟨v, used, _, hthere, hused⟩ := hstored
            obtain ⟨hs, -⟩ := Prod.mk.inj (Option.some.inj (hlookup.symm.trans hthere))
            exact ⟨some far, .inr rfl, v, used, hkept.trans hs, hused⟩
  | some stop =>
      obtain ⟨v, used, rfl, hused⟩ := hfresh
      cases stored with
      | none =>
          refine ⟨some stop, rfl, v, used, Run.keep_of_furthest fun s under hlookup => ?_, hused⟩
          exact absurd hlookup (hstored s under)
      | some far =>
          obtain ⟨w, usedThere, under, hlookup, husedThere⟩ := hstored
          refine ⟨some (max stop far), rfl, ?_⟩
          rcases Nat.lt_or_ge stop far with hfurther | hfurthest
          · rw [Nat.max_eq_right (Nat.le_of_lt hfurther)]
            exact ⟨w, usedThere, Run.keep_of_further hlookup hfurther, husedThere⟩
          · rw [Nat.max_eq_left hfurthest]
            refine ⟨v, used, Run.keep_of_furthest fun s under' hthere => ?_, hused⟩
            obtain ⟨hs, -⟩ := Prod.mk.inj (Option.some.inj (hlookup.symm.trans hthere))
            obtain rfl := Outcome.success.inj hs
            exact hfurthest

/-- The grammar with the given keys. -/
abbrev turning (parity : Parity) (keyOf : IndirectRule → Key) : Grammar IndirectSignature :=
  indirectGrammar parity (keyOf .t) (keyOf .s)

variable [LawfulMemoTable T]

/-- A rule within its bound keeps what its body comes to or the success that it has stored, and
leaves its partner's entry alone. -/
theorem comes_kept (hkeys : keyOf .s ≠ keyOf .t) (hlength : input.tokens.length < 2 ^ 32 - 2)
    (hentry : state.lookup () (keyOf rule) pos = none)
    (hdepth : ctx.depth (keyOf rule) ≤ input.remaining pos + 1) {stored fresh : Option Nat}
    (hstored : Holds (keysOf keyOf) (between.lookup () (keyOf rule) pos) stored)
    (hbody : Comes (turning parity keyOf) input (fuel + 1) rule.body (keysOf keyOf) pos
      (deeper keyOf rule ctx) state between fresh) :
    ∃ kept next, Kept stored kept fresh ∧
      Comes (turning parity keyOf) input (fuel + 2) (.ref (S := IndirectSignature) rule)
        (keysOf keyOf) pos ctx state next kept ∧
      Holds (keysOf keyOf) (next.lookup () (keyOf rule) pos) kept ∧
      next.lookup () (keyOf rule.partner) pos = between.lookup () (keyOf rule.partner) pos := by
  obtain ⟨o, hrun, ho⟩ := comes_iff.1 hbody
  obtain ⟨kept, hkept, hshows⟩ := shows_keep parity input ctx hstored ho
  obtain ⟨o', next, hdone, rfl, hown, hframe⟩ :=
    Grammar.run_kept (IndirectRule.defined parity keyOf rule) hlength hentry hdepth hrun
  have hother : (keyOf rule.partner, pos) ≠ (keyOf rule, pos) := by
    intro heq
    have hsame := (Prod.mk.inj heq).1
    cases rule with
    | s => exact hkeys hsame.symm
    | t => exact hkeys hsame
  refine ⟨kept, next, hkept, comes_iff.2 ⟨_, hdone, hshows⟩, ?_, ?_⟩
  · exact hown ▸ hshows.holds _
  · exact hframe () (keyOf rule.partner) pos hother

/-! ## Turns -/

/-- Something has been read. -/
def Beyond (input : Input IndirectSignature.Token) (pos stop : Nat) : Prop :=
  ∃ word, word ≠ [] ∧ input.Reads pos word stop

theorem Beyond.of_sign (h : input.Reads pos rule.sign.toList stop) : Beyond input pos stop :=
  ⟨_, rule.toList_sign_ne_nil, h⟩

theorem Beyond.trans (h : Beyond input pos stop) (hread : input.Reads stop rule.sign.toList far) :
    Beyond input pos far := by
  obtain ⟨word, hword, hreads⟩ := h
  exact ⟨_, List.append_ne_nil_of_left_ne_nil hword _, hreads.append hread⟩

/-- What has been read begins with the letter that stands there. -/
theorem Beyond.first_le {first : Nat} (h : Beyond input pos stop)
    (hfirst : input.Reads pos rule.sign.toList first) : first ≤ stop := by
  obtain ⟨word, hword, hreads⟩ := h
  obtain ⟨letter, hsign⟩ : ∃ letter, rule.sign.toList = [letter] := ⟨_, rule.toList_sign⟩
  rw [hsign] at hfirst
  exact hfirst.le_of_reads hreads hword

/-- No letter stands where its partner stands. -/
theorem not_reads_both {first other : Nat} (h : input.Reads pos rule.sign.toList first)
    (h' : input.Reads pos rule.partner.sign.toList other) : False := by
  have hrest := h.rest_eq.symm.trans h'.rest_eq
  rw [rule.toList_sign, rule.partner.toList_sign] at hrest
  exact rule.letter_partner_ne (List.cons.inj hrest).1.symm

/-- Where the partner's success lies within the rule's: right before its last letter.  A partner
without a success leaves the rule its letter alone. -/
def Behind (input : Input IndirectSignature.Token) (pos : Nat) (rule : IndirectRule) (stop : Nat) :
    Option Nat → Prop
  | some middle => Beyond input pos middle ∧ input.Reads middle rule.sign.toList stop
  | none => ∃ first, input.Reads pos rule.sign.toList first

/-- What a turn leaves in the table: the rule's success, and what its partner has behind it. -/
structure Reached (keyOf : IndirectRule → Key) (input : Input IndirectSignature.Token) (pos : Nat)
    (rule : IndirectRule) (stop : Nat) (state : State IndirectSignature T) : Prop where
  own : Holds (keysOf keyOf) (state.lookup () (keyOf rule) pos) (some stop)
  behind : ∃ found, Holds (keysOf keyOf) (state.lookup () (keyOf rule.partner) pos) found ∧
    Behind input pos rule stop found

/-- In its `n`-th turn the rule comes to the position, if nothing has been stored before. -/
def Reaches (T : Type → Type) [MemoTable T] [LawfulMemoTable T] (parity : Parity)
    (keyOf : IndirectRule → Key) (input : Input IndirectSignature.Token) (pos : Nat)
    (rule : IndirectRule) (n stop : Nat) : Prop :=
  Beyond input pos stop ∧ ∀ (fuel : Nat) (ctx : Context) (state : State IndirectSignature T),
    n + 3 ≤ fuel → AtTurn keyOf (input.remaining pos) rule n ctx →
      (∀ other, state.lookup () (keyOf other) pos = none) →
        ∃ next, Comes (turning parity keyOf) input fuel (.ref (S := IndirectSignature) rule)
            (keysOf keyOf) pos ctx state next (some stop) ∧
          Reached keyOf input pos rule stop next

theorem Kept.eq_fresh {kept fresh : Option Nat} (h : Kept none kept fresh) : kept = fresh := by
  cases fresh with
  | none => exact h.elim id id
  | some stop => exact h

theorem Kept.eq_stored {kept : Option Nat} {first : Nat} (h : Kept (some stop) kept (some first))
    (hle : first ≤ stop) : kept = some stop :=
  h.trans (congrArg some (Nat.max_eq_right hle))

/-- A partner that cannot go on has its letter alone or nothing.  Either way, what it keeps lies
within the rule's success. -/
theorem behind_kept {stored kept verdict : Option Nat}
    (hstart : ∃ first, input.Reads pos rule.sign.toList first ∨
      input.Reads pos rule.partner.sign.toList first)
    (hbehind : Behind input pos rule stop stored) (hbegins : Begins input pos rule.partner verdict)
    (hkept : Kept stored kept verdict) : Behind input pos rule stop kept := by
  cases verdict with
  | some first =>
      cases stored with
      | none =>
          obtain ⟨other, hread⟩ := hbehind
          exact (not_reads_both hread hbegins).elim
      | some middle =>
          rw [hkept.eq_stored (hbehind.1.first_le hbegins)]
          exact hbehind
  | none =>
      rcases hkept with rfl | rfl
      · obtain ⟨first, hread | hread⟩ := hstart
        · exact ⟨first, hread⟩
        · have hstarts := hread.startsWith rule.partner.toList_sign_ne_nil
          rw [hbegins] at hstarts
          cases hstarts
      · exact hbehind

section Rounds

variable (hkeys : keyOf .s ≠ keyOf .t) (hlength : input.tokens.length < 2 ^ 32 - 2)

include hkeys hlength

/-- The innermost `t` has its letter or nothing. -/
theorem comes_innermost {verdict : Option Nat} (hfuel : 3 ≤ fuel)
    (hturn : AtTurn keyOf (input.remaining pos) .t 0 ctx)
    (hempty : ∀ other, state.lookup () (keyOf other) pos = none)
    (hbegins : Begins input pos .t verdict) :
    ∃ next, Comes (turning parity keyOf) input fuel (.ref (S := IndirectSignature) .t)
        (keysOf keyOf) pos ctx state next verdict ∧
      Holds (keysOf keyOf) (next.lookup () (keyOf .t) pos) verdict ∧
      next.lookup () (keyOf .s) pos = none := by
  obtain ⟨fuel, rfl⟩ : ∃ left, fuel = left + 3 := ⟨fuel - 3, by omega⟩
  obtain ⟨between, hcurtailed, hmemo⟩ := Grammar.refuses_curtailed
    (IndirectRule.defined parity keyOf .s) fuel (mem_keysOf keyOf .s) (hempty .s)
    (hturn.curtailed hkeys)
  have hsame (rule : IndirectRule) : between.lookup () (keyOf rule) pos = none := by
    have hlookup : between.lookup () (keyOf rule) pos = state.lookup () (keyOf rule) pos := by
      simp only [State.lookup, hmemo]
    exact hlookup.trans (hempty rule)
  have hnone : Holds (keysOf keyOf) (between.lookup () (keyOf .t) pos) none := by
    rw [hsame]
    exact holds_none _
  have hbody : Comes (turning parity keyOf) input (fuel + 2) (IndirectRule.body .t) (keysOf keyOf)
      pos (deeper keyOf .t ctx) state between verdict :=
    comes_alone none hcurtailed (fun _ hmem => absurd hmem (Option.not_mem_none _)) hbegins
  obtain ⟨kept, next, hkept, hcomes, hown, hother⟩ :=
    comes_kept hkeys hlength (hempty .t) hturn.depth_le hnone hbody
  obtain rfl := hkept.eq_fresh
  exact ⟨next, hcomes, hown, hother.trans (hsame .s)⟩

/-- The first turn of all: `t` has its letter. -/
theorem reaches_letter_t (hread : input.Reads pos (IndirectRule.sign .t).toList stop) :
    Reaches T parity keyOf input pos .t 0 stop := by
  refine ⟨.of_sign hread, fun fuel ctx state hfuel hturn hempty => ?_⟩
  have hbegins : Begins input pos .t (some stop) := hread
  obtain ⟨next, hcomes, hown, hother⟩ := comes_innermost hkeys hlength hfuel hturn hempty hbegins
  refine ⟨next, hcomes, hown, none, ?_, stop, hread⟩
  rw [IndirectRule.partner, hother]
  exact holds_none _

/-- The first turn of `s`, if the innermost `t` has nothing. -/
theorem reaches_letter_s (hread : input.Reads pos (IndirectRule.sign .s).toList stop) :
    Reaches T parity keyOf input pos .s 1 stop := by
  refine ⟨.of_sign hread, fun fuel ctx state hfuel hturn hempty => ?_⟩
  obtain ⟨fuel, rfl⟩ : ∃ left, fuel = left + 2 := ⟨fuel - 2, by omega⟩
  have hbegins : Begins input pos .t none := by
    cases hstarts : input.startsWith pos (IndirectRule.sign .t).toList with
    | false => exact hstarts
    | true => exact (not_reads_both hread (Input.reads_of_startsWith hstarts)).elim
  have hinner : 3 ≤ fuel + 1 := by omega
  obtain ⟨between, hpartner, hnone, hother⟩ := comes_innermost hkeys hlength hinner
    (hturn.inner hkeys) hempty hbegins
  have hstored : Holds (keysOf keyOf) (between.lookup () (keyOf .s) pos) none := by
    rw [hother]
    exact holds_none _
  have hbody : Comes (turning parity keyOf) input (fuel + 1) (IndirectRule.body .s) (keysOf keyOf)
      pos (deeper keyOf .s ctx) state between (some stop) :=
    comes_alone none hpartner (fun _ hmem => absurd hmem (Option.not_mem_none _)) hread
  obtain ⟨kept, next, hkept, hcomes, hown, hsame⟩ :=
    comes_kept hkeys hlength (hempty .s) hturn.depth_le hstored hbody
  obtain rfl := hkept.eq_fresh
  refine ⟨next, hcomes, hown, none, ?_, stop, hread⟩
  rw [hsame]
  exact hnone

/-- The rule puts its letter behind what its partner has found. -/
theorem reaches_longer (h : Reaches T parity keyOf input pos rule.partner n stop)
    (hread : input.Reads stop rule.sign.toList far) :
    Reaches T parity keyOf input pos rule (n + 1) far := by
  obtain ⟨hbeyond, hrun⟩ := h
  refine ⟨hbeyond.trans hread, fun fuel ctx state hfuel hturn hempty => ?_⟩
  obtain ⟨fuel, rfl⟩ : ∃ left, fuel = left + 2 := ⟨fuel - 2, by omega⟩
  obtain ⟨between, hpartner, hreached⟩ := hrun (fuel + 1) _ state (by omega) (hturn.inner hkeys)
    hempty
  obtain ⟨stored, hstored, hbehind⟩ := hreached.behind
  rw [rule.partner_partner] at hstored
  obtain ⟨kept, next, hkept, hcomes, hown, hsame⟩ := comes_kept hkeys hlength (hempty rule)
    hturn.depth_le hstored (comes_longer hpartner hread)
  -- The rule's earlier success, if there is one, lies within the partner's.
  obtain rfl : kept = some far := by
    cases stored with
    | none => exact hkept
    | some middle =>
        have hmiddle := hbehind.2.lt rule.partner.toList_sign_ne_nil
        have hstop := hread.lt rule.toList_sign_ne_nil
        exact hkept.trans (congrArg some (Nat.max_eq_left (by omega)))
  refine ⟨next, hcomes, hown, some stop, ?_, hbeyond, hread⟩
  rw [hsame]
  exact hreached.own

/-- Where the partner's letter does not follow, the rule comes to the same place at its next
turn. -/
theorem reaches_again (hstart : ∃ first, input.Reads pos rule.sign.toList first ∨
      input.Reads pos rule.partner.sign.toList first)
    (hends : input.startsWith stop rule.partner.sign.toList = false)
    (h : Reaches T parity keyOf input pos rule n stop) :
    Reaches T parity keyOf input pos rule (n + 2) stop := by
  obtain ⟨hbeyond, hrun⟩ := h
  refine ⟨hbeyond, fun fuel ctx state hfuel hturn hempty => ?_⟩
  obtain ⟨fuel, rfl⟩ : ∃ left, fuel = left + 3 := ⟨fuel - 3, by omega⟩
  -- The partner's turn runs the rule's last one.
  have hpartnerTurn := hturn.inner hkeys
  have hlastTurn := hpartnerTurn.inner hkeys
  rw [rule.partner_partner] at hlastTurn
  obtain ⟨between, hlast, hreached⟩ := hrun (fuel + 1) _ state (by omega) hlastTurn hempty
  have hpartnerLast : Comes (turning parity keyOf) input (fuel + 1)
      (.ref (S := IndirectSignature) rule.partner.partner) (keysOf keyOf) pos
      (deeper keyOf rule.partner (deeper keyOf rule ctx)) state between (some stop) := by
    rw [rule.partner_partner]
    exact hlast
  obtain ⟨verdict, hbegins⟩ := exists_begins input pos rule.partner
  obtain ⟨stored, hstored, hbehind⟩ := hreached.behind
  have hpartnerBody := comes_alone (some stop) hpartnerLast
    (fun _ hmem => Option.some.inj hmem ▸ hends) hbegins
  obtain ⟨found, middle, hfound, hpartner, hpartnerOwn, hown⟩ := comes_kept hkeys hlength
    (hempty rule.partner) hpartnerTurn.depth_le hstored hpartnerBody
  rw [rule.partner_partner] at hown
  have hfoundBehind := behind_kept hstart hbehind hbegins hfound
  -- Then the rule goes on from what its partner has kept, or has its own letter.
  obtain ⟨last, hle, hbody⟩ : ∃ last ≤ stop, Comes (turning parity keyOf) input (fuel + 2) rule.body
      (keysOf keyOf) pos (deeper keyOf rule ctx) state middle (some last) := by
    cases found with
    | some before => exact ⟨stop, Nat.le_refl _, comes_longer hpartner hfoundBehind.2⟩
    | none =>
        obtain ⟨first, hread⟩ := hfoundBehind
        exact ⟨first, hbeyond.first_le hread,
          comes_alone none hpartner (fun _ hmem => absurd hmem (Option.not_mem_none _)) hread⟩
  have hownStored : Holds (keysOf keyOf) (middle.lookup () (keyOf rule) pos) (some stop) := by
    rw [hown]
    exact hreached.own
  obtain ⟨kept, next, hkept, hcomes, hnext, hsame⟩ := comes_kept hkeys hlength (hempty rule)
    hturn.depth_le hownStored hbody
  obtain rfl := hkept.eq_stored hle
  refine ⟨next, hcomes, hnext, found, ?_, hfoundBehind⟩
  rw [hsame]
  exact hpartnerOwn

end Rounds

/-! ## Derivations -/

/-- The first turn in which a rule may have its letter alone. -/
def IndirectRule.firstTurn : IndirectRule → Nat
  | .s => 1
  | .t => 0

namespace Derivation

/-- The turn in which a derivation is found. -/
def turn {rule : IndirectRule} : Derivation rule → Nat
  | letter _ => rule.firstTurn
  | longer inner => inner.turn + 1

theorem turn_le (d : Derivation rule) : d.turn ≤ d.written.length := by
  induction d with
  | letter rule => cases rule <;> decide
  | longer inner ih =>
      simp only [turn, written, List.length_append, List.length_singleton]
      omega

theorem turn_mod (d : Derivation rule) : d.turn % 2 = rule.firstTurn := by
  induction d with
  | letter rule => cases rule <;> rfl
  | @longer rule inner ih =>
      have hnext : (rule.partner.firstTurn + 1) % 2 = rule.firstTurn := by cases rule <;> rfl
      rw [← hnext, ← ih]
      simp only [turn]
      omega

/-- A word begins with the letter of one of the rules. -/
theorem begins (d : Derivation rule) (hread : input.Reads pos d.written stop) :
    ∃ first, input.Reads pos rule.sign.toList first ∨
      input.Reads pos rule.partner.sign.toList first := by
  induction d generalizing stop with
  | letter rule => exact ⟨stop, .inl (rule.toList_sign ▸ hread)⟩
  | @longer rule inner ih =>
      obtain ⟨middle, hinner, -⟩ := hread.split
      obtain ⟨first, hfirst⟩ := ih hinner
      rw [rule.partner_partner] at hfirst
      exact ⟨first, hfirst.symm⟩

variable (hkeys : keyOf .s ≠ keyOf .t) (hlength : input.tokens.length < 2 ^ 32 - 2)

include hkeys hlength

/-- A derivation of what stands at the position is found in its turn. -/
theorem reaches (d : Derivation rule) (hread : input.Reads pos d.written stop) :
    Reaches T parity keyOf input pos rule d.turn stop := by
  induction d generalizing stop with
  | letter rule =>
      cases rule with
      | s => exact reaches_letter_s hkeys hlength hread
      | t => exact reaches_letter_t hkeys hlength hread
  | @longer rule inner ih =>
      obtain ⟨middle, hinner, hletter⟩ := hread.split
      exact reaches_longer hkeys hlength (ih hinner) (rule.toList_sign ▸ hletter)

/-- If `t` cannot go on behind a derivation of `s`, then that is what `s` comes to. -/
theorem reaches_outermost (d : Derivation .s) (hread : input.Reads pos d.written stop)
    (hends : input.startsWith stop (IndirectRule.sign .t).toList = false) :
    Reaches T parity keyOf input pos .s (2 * input.remaining pos + 3) stop := by
  have hbound : d.turn ≤ input.remaining pos := by
    rw [hread.remaining_eq]
    exact Nat.le_trans d.turn_le (Nat.le_add_right _ _)
  have hodd : d.turn % 2 = 1 := d.turn_mod
  obtain ⟨rounds, hrounds⟩ : ∃ rounds, 2 * input.remaining pos + 3 = d.turn + 2 * rounds :=
    ⟨(2 * input.remaining pos + 3 - d.turn) / 2, by omega⟩
  rw [hrounds]
  clear hrounds
  induction rounds with
  | zero => exact d.reaches hkeys hlength hread
  | succ rounds ih => exact reaches_again hkeys hlength (d.begins hread) hends ih

end Derivation

end Samples
end LeftRec
