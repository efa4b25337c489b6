import Mathlib.Algebra.Group.Action.Defs
import LeftRec.Proofs.Congruence
import LeftRec.Proofs.Fatality
import LeftRec.Proofs.Rebuilding
import LeftRec.Proofs.Termination
import LeftRec.Samples.Arithmetic
import LeftRec.Samples.Indirect
import LeftRec.Samples.Subtraction

/-!
# Sufficiency — how much fuel a parse takes

Calling a rule takes a unit of fuel, and where all rules are memoized it also takes from the size of
what is left: a token is consumed, or the room below the bounds on recursion shrinks.  Told as one
number, that size bounds the fuel that a run takes.  A parse of fewer than 2^32 - 2 tokens never
uses up the fuel that parses are given.
-/

namespace LeftRec

variable {S : Signature} {T : Type → Type} {α β : Type}

/-! ## The size as one number -/

section Weight

variable {τ : Type} {input : Input τ} {keys : List Key} {pos pos' : Nat} {ctx ctx' : Context}

/-- A context that tracks more leaves less room. -/
theorem room_le_of_le (h : ctx.Le ctx') : room input keys pos ctx' ≤ room input keys pos ctx :=
  List.sum_le_sum fun key _ => Nat.sub_le_sub_left (h.depth_le key) _

theorem room_le_length :
    room input keys pos ctx ≤ keys.length * (input.tokens.length + 2) := by
  have hterm : ∀ n ∈ keys.map fun key => input.remaining pos + 2 - ctx.depth key,
      n ≤ input.tokens.length + 2 := by
    intro n hn
    obtain ⟨key, -, rfl⟩ := List.mem_map.1 hn
    have hremaining := input.remaining_le_length pos
    omega
  have hsum := List.sum_le_card_nsmul _ _ hterm
  rwa [List.length_map, smul_eq_mul] at hsum

/-- The size as one number: a token that remains counts for more than all the room at a position. -/
def weight (input : Input τ) (keys : List Key) (pos : Nat) (ctx : Context) : Nat :=
  input.remaining pos * (keys.length * (input.tokens.length + 2) + 1) + room input keys pos ctx

theorem weight_lt_of_size_lt (h : size input keys pos ctx < size input keys pos' ctx') :
    weight input keys pos ctx < weight input keys pos' ctx' := by
  unfold weight
  have hroom : room input keys pos ctx ≤ keys.length * (input.tokens.length + 2) := room_le_length
  generalize keys.length * (input.tokens.length + 2) = most at hroom
  rcases Prod.Lex.toLex_lt_toLex.1 h with hless | ⟨hsame, hless⟩
  · have hstep : (input.remaining pos + 1) * (most + 1) ≤ input.remaining pos' * (most + 1) :=
      Nat.mul_le_mul_right _ hless
    rw [Nat.succ_mul] at hstep
    omega
  · simp only at hsame hless
    rw [hsame]
    omega

theorem weight_le_of_size_le (h : size input keys pos ctx ≤ size input keys pos' ctx') :
    weight input keys pos ctx ≤ weight input keys pos' ctx' := by
  rcases lt_or_eq_of_le h with hlt | heq
  · exact le_of_lt (weight_lt_of_size_lt hlt)
  · obtain ⟨hremaining, hroom⟩ := Prod.mk.inj (toLex.injective heq)
    rw [weight, weight, hremaining, hroom]

theorem remaining_le_weight : input.remaining pos ≤ weight input keys pos ctx := by
  have hcount : input.remaining pos * 1 ≤
      input.remaining pos * (keys.length * (input.tokens.length + 2) + 1) :=
    Nat.mul_le_mul_left _ (Nat.le_add_left _ _)
  unfold weight
  omega

/-- Parses get fuel for the weight of any input that is not too long. -/
theorem weight_lt_ampleFuel (hkeys : keys.length ≤ 2 ^ 32)
    (hlength : input.tokens.length < 2 ^ 32 - 2) :
    weight input keys pos ctx + 2 ≤ Grammar.ampleFuel := by
  have hmost : keys.length * (input.tokens.length + 2) ≤ 2 ^ 32 * 2 ^ 32 :=
    Nat.mul_le_mul hkeys (by omega)
  have hroom : room input keys pos ctx ≤ keys.length * (input.tokens.length + 2) := room_le_length
  have hremaining := input.remaining_le_length pos
  have htokens : input.remaining pos * (keys.length * (input.tokens.length + 2) + 1) ≤
      2 ^ 32 * (2 ^ 32 * 2 ^ 32 + 1) :=
    Nat.mul_le_mul (by omega) (by omega)
  unfold weight Grammar.ampleFuel
  omega

end Weight

/-- The library offers the parser's outermost operation, which neither copies a rule late nor
memoizes. -/
abbrev Parser.Bare (p : Parser S α) : Prop :=
  p.Settled ∧ p.node? = none

namespace Parser

variable {γ : Type} {p : Parser S α} {q : Parser S β}

theorem bare_ref (rule : S.Rule) : (Parser.ref rule : Parser S _).All Bare :=
  ⟨⟨trivial, trivial⟩, rfl⟩

theorem bare_tryMap (f : α → Except Fault β) (hp : p.All Bare) : (Parser.tryMap f p).All Bare :=
  ⟨⟨⟨trivial, trivial⟩, rfl⟩, hp⟩

theorem bare_zipWith (f : α → β → γ) (hp : p.All Bare) (hq : q.All Bare) :
    (Parser.zipWith f p q).All Bare :=
  ⟨⟨⟨trivial, trivial⟩, rfl⟩, hp, hq⟩

theorem bare_alt {q : Parser S α} (hp : p.All Bare) (hq : q.All Bare) :
    (Parser.alt p q).All Bare :=
  ⟨⟨⟨trivial, trivial⟩, rfl⟩, hp, hq⟩

end Parser

theorem Parser.settled_of_node {p : Parser S α} {node : MemoNode S} (h : p.node? = some node) :
    p.Settled := by
  cases p with
  | memo => exact ⟨trivial, trivial⟩
  | unit | fail | literal | token | find | all | eof | scan | custom | count | tryMap | zipWith
  | bind | alt | label | commit | look | row | many | ref | delay => cases h

namespace Grammar

variable {G : Grammar S} {input : Input S.Token} {keys : List Key} {p : Parser S α}
variable {q : Parser S β} {root v w : Visit S T}

/-! ## Fuel for a visit -/

/-- There is fuel for the weight that the visit begins with, for the call of a rule and for the
memoized parser that is called. -/
def Supplied (input : Input S.Token) (keys : List Key) (v : Visit S T) : Prop :=
  weight input keys v.pos v.ctx + 2 ≤ v.fuel ∨
    (∃ node, v.parser.node? = some node ∧ node.key ∈ keys) ∧
      weight input keys v.pos v.ctx + 1 ≤ v.fuel

theorem Supplied.remaining_lt (h : Supplied input keys v) : input.remaining v.pos < v.fuel := by
  have hle : input.remaining v.pos ≤ weight input keys v.pos v.ctx := remaining_le_weight
  rcases h with h | ⟨-, h⟩
  · omega
  · omega

/-- A parser that is not memoized has fuel for a call. -/
theorem Supplied.of_none (h : Supplied input keys v) (hnode : v.parser.node? = none) :
    weight input keys v.pos v.ctx + 2 ≤ v.fuel := by
  -- The second case is that of a memoized parser.
  rcases h with h | ⟨⟨node, hsome, -⟩, -⟩
  · exact h
  · cases hnode.symm.trans hsome

/-! ## Orderly parsers -/

/-- The library offers all that the parser uses, nothing of it is copied late, and every rule is
memoized under one of the keys. -/
structure Orderly (G : Grammar S) (keys : List Key) (p : Parser S α) : Prop where
  offered : G.Built Parser.Offered p
  early : G.Built Parser.Early p
  memoized : ∀ rule, G.Uses anyCopy p (.ref rule : Parser S _) → G.MemoizedUnder keys rule

theorem Orderly.of_uses (h : G.Orderly keys p) (hq : G.Uses anyCopy p q) : G.Orderly keys q where
  offered := h.offered.of_uses hq
  early := h.early.of_uses hq
  memoized rule hrule := h.memoized rule (hq.trans hrule)

/-! ## Flat grammars -/

/-- Every rule is memoized under one of the keys, and its body is bare throughout. -/
def Flat (G : Grammar S) (keys : List Key) : Prop :=
  ∀ rule, ∃ parity, ∃ key ∈ keys, ∃ body,
    G.define rule = some (.memo (S.kind rule) parity key body) ∧ body.All Parser.Bare

namespace Flat

/-- Whatever is used is bare throughout, or is the memoized parser that defines a rule. -/
theorem uses (h : G.Flat keys) (hp : p.All Parser.Bare) (hq : G.Uses anyCopy p q) :
    q.All Parser.Bare ∨ ∃ rule parity key body,
      G.define rule = some (.memo (S.kind rule) parity key body) ∧ body.All Parser.Bare ∧
        q.node? = some ⟨S.kind rule, parity, key, body⟩ := by
  induction hq with
  | itself => exact .inl hp
  | @part _ _ q r _ hpart ih =>
      rcases ih with hbare | ⟨rule, parity, key, body, -, hbody, hnode⟩
      · exact .inl (hbare.part hpart)
      · cases q with
        | memo kind parity key inner =>
            cases hnode
            have hinner : (Parser.memo (S.kind rule) parity key body).Inner
                fun q => q.All Parser.Bare := hbody
            exact .inl (hinner.part hpart)
        | unit | fail | literal | token | find | all | eof | scan | custom | count | tryMap
        | zipWith | bind | alt | label | commit | look | row | many | ref | delay => cases hnode
  | @rule rule body _ hdefine _ =>
      obtain ⟨parity, key, -, inner, hmemo, hinner⟩ := h rule
      obtain rfl := Option.some.inj (hdefine.symm.trans hmemo)
      exact .inr ⟨rule, parity, key, inner, hmemo, hinner, rfl⟩
  | copy _ _ _ ih =>
      rcases ih with hbare | ⟨_, _, _, _, _, _, hnode⟩
      · exact hbare.1.2.elim
      · cases hnode

theorem orderly (h : G.Flat keys) (hp : p.All Parser.Bare) : G.Orderly keys p := by
  have hsettled {γ : Type} {q : Parser S γ} (hq : G.Uses anyCopy p q) : q.Settled := by
    rcases h.uses hp hq with hbare | ⟨_, _, _, _, _, _, hnode⟩
    · exact hbare.holds.1
    · exact Parser.settled_of_node hnode
  refine ⟨fun _ q hq => (hsettled hq).1, fun _ q hq => (hsettled hq).2, fun rule _ => ?_⟩
  obtain ⟨parity, key, hkey, body, hdefine, -⟩ := h rule
  exact ⟨parity, key, hkey, body, hdefine⟩

end Flat

variable [MemoTable T]

/-- An orderly parser that begins at a boundary, with a table that only leads on. -/
structure Begins (G : Grammar S) (input : Input S.Token) (keys : List Key) (v : Visit S T) : Prop
    where
  orderly : G.Orderly keys v.parser
  boundary : input.Boundary v.pos
  onward : v.state.Onward input

namespace Begins

/-- A run from the start of an input, with an empty table. -/
theorem of_start (horderly : G.Orderly keys p) (fuel : Nat) (ctx : Context) {state : State S T}
    (hstate : state.NoEntries) : G.Begins input keys ⟨p, fuel, 0, ctx, state⟩ :=
  ⟨horderly, Input.boundary_zero, hstate.onward⟩

theorem reading (h : G.Begins input keys v) : G.OnCourse (.reading input) v :=
  ⟨h.orderly.offered, h.boundary, h.onward⟩

theorem ahead (h : G.Begins input keys v) : G.OnCourse (.ahead input) v where
  offered := h.orderly.offered
  starts := trivial
  along kind key pos o under hlookup := (h.onward kind key pos o under hlookup).le

variable [LawfulMemoTable T]

theorem visits (h : G.Begins input keys root) (hvisits : G.Visits input root v) :
    G.Begins input keys v where
  orderly := h.orderly.of_uses hvisits.uses
  boundary := (h.reading.visits hvisits).1.starts
  onward := (h.reading.visits hvisits).1.along

end Begins

/-! ## Fuel for a run -/

variable [LawfulMemoTable T]

/-- Nothing that is entered has a larger size. -/
theorem Enters.size_le (h : G.Enters input v w) (hv : G.Begins input keys v) :
    size input keys w.pos w.ctx ≤ size input keys v.pos v.ctx := by
  obtain ⟨-, word, hword⟩ := hv.reading.enters h
  by_cases hpos : w.pos = v.pos
  · rw [hpos]
    exact Prod.Lex.toLex_le_toLex.2 (.inr ⟨rfl, room_le_of_le (h.ctx_le hv.ahead hpos)⟩)
  · exact le_of_lt (size_lt_of_reads hword hpos)

theorem Supplied.enters (h : Supplied input keys v) (hv : G.Begins input keys v)
    (henters : G.Enters input v w) : Supplied input keys w := by
  have hle := weight_le_of_size_le (henters.size_le hv)
  -- Only a call takes fuel, and behind it stands a memoized parser, whose body weighs less.
  cases henters with
  | count what p => exact hv.orderly.offered.holds.elim
  | copy hfill => exact hv.orderly.early.holds.elim
  | tryMap | zipWithLeft | zipWithRight | bindFirst | bindNext | altLeft | altRight | label | commit
  | look | row | many => exact .inl (Nat.le_trans (Nat.add_le_add_right hle 2) (h.of_none rfl))
  | @memo kind parity key p fuel pos ctx state _ hdepth _ =>
      rcases h with h | ⟨⟨node, hnode, hkey⟩, h⟩
      · exact .inl (Nat.le_trans (Nat.add_le_add_right hle 2) h)
      -- The depth of one of the keys is raised, and so the weight falls.
      · obtain rfl := Option.some.inj hnode
        have hless := weight_lt_of_size_lt
          (size_withDepth_lt hkey (Run.depth_le_of_le_depthBound hdepth))
        exact .inl (Nat.le_trans (Nat.succ_le_succ hless) h)
  | @ref rule body fuel pos ctx state hdefine =>
      obtain ⟨parity, key, hkey, inner, hmemo⟩ := hv.orderly.memoized rule .itself
      obtain rfl := Option.some.inj (hdefine.symm.trans hmemo)
      exact .inr ⟨⟨_, rfl, hkey⟩, Nat.le_of_succ_le_succ (h.of_none rfl)⟩

theorem Supplied.visits (h : Supplied input keys root) (hroot : G.Begins input keys root)
    (hvisits : G.Visits input root v) : Supplied input keys v := by
  induction hvisits with
  | refl => exact h
  | tail hvisits henters ih => exact ih.enters (hroot.visits hvisits) henters

/-- A run with fuel for its weight comes to the same with more, and also with other parities if the
parity of no visit counts. -/
theorem run_of_supplied {f : Parity → Parity} (h : Supplied input keys root)
    (hroot : G.Begins input keys root)
    (hparity : f = id ∨ ∀ v, G.Visits input root v → ¬ G.Contested input v) (more : Nat) :
    (G.mapParity f).run input (more + root.fuel) (root.parser.mapParity f) root.pos root.ctx
        root.state = G.visit input root :=
  run_congr hroot.orderly.early hroot.reading
    (fun _ hvisits => (h.visits hroot hvisits).remaining_lt) hparity more

/-- A run with fuel for its weight does not use it up. -/
theorem visit_ne_exhausted (h : Supplied input keys root) (hroot : G.Begins input keys root)
    (hlength : input.tokens.length < 2 ^ 32 - 2) : G.visit input root ≠ .exhausted := by
  have hends := endsBelow (T := T) hroot.orderly.offered hroot.orderly.early hroot.orderly.memoized
    hlength (size input keys root.pos root.ctx) .itself hroot.boundary hroot.onward (le_refl _)
  obtain ⟨r, hr, enough, henough⟩ := hends
  -- With enough fuel on top the run ends, and the fuel on top makes no difference.
  have hmore := run_of_supplied (f := id) h hroot (.inl rfl) (enough + 1)
  rw [G.mapParity_id, Parser.mapParity_id] at hmore
  have hrun := henough (enough + root.fuel) (Nat.le_add_right _ _)
  have hsame : enough + 1 + root.fuel = enough + root.fuel + 1 := by omega
  rw [hsame] at hmore
  have hvisit : G.visit input root = r := hmore.symm.trans hrun
  intro hexhausted
  rw [hvisit] at hexhausted
  rw [hexhausted] at hr
  exact hr

/-! ## Fuel for a parse -/

omit [LawfulMemoTable T] in
theorem parse_le {fuel more : Nat} (h : fuel ≤ more) (consumeAll : Bool) (p : Parser S α) :
    (G.parse fuel input consumeAll p : Eval (State S T) _).Le (G.parse more input consumeAll p) :=
  (Eval.Le.refl _).bind fun _ => (run_le h _ 0 ∅).bind fun _ => Eval.Le.refl _

/-- A parse does not use up the fuel that parses are given. -/
theorem parse_ne_exhausted {consumeAll : Bool}
    (horderly : G.Orderly keys (if consumeAll then p.complete else p))
    (hkeys : keys.length ≤ 2 ^ 32) (hlength : input.tokens.length < 2 ^ 32 - 2)
    (state : State S T) :
    G.parse ampleFuel input consumeAll p state ≠ .exhausted := by
  have hrun : G.run input ampleFuel (if consumeAll then p.complete else p) 0 ∅ state.clear ≠
      .exhausted :=
    visit_ne_exhausted (.inl (weight_lt_ampleFuel hkeys hlength))
      (.of_start horderly ampleFuel ∅ (State.noEntries_clear state)) hlength
  intro hparse
  refine hrun ?_
  change ((G.run input ampleFuel (if consumeAll then p.complete else p) 0 ∅) >>= fun o => _)
    state.clear = _ at hparse
  rw [Eval.bind_apply] at hparse
  revert hparse
  cases G.run input ampleFuel (if consumeAll then p.complete else p) 0 ∅ state.clear with
  | exhausted => exact fun _ => rfl
  | stopped fault next => exact nofun
  | done o next => exact nofun

end Grammar

/-! ## The sample grammars -/

/-- Requiring the end of the input needs nothing but bare parsers. -/
theorem Parser.bare_whole {p : Parser S α} (hp : p.All Parser.Bare) (consumeAll : Bool) :
    (if consumeAll then p.complete else p).All Parser.Bare := by
  cases consumeAll with
  | false => exact hp
  | true => exact bare_zipWith _ hp ⟨⟨trivial, trivial⟩, rfl⟩

/-- A parse by a flat grammar with a start that is bare throughout. -/
theorem Grammar.Flat.parse_ne_exhausted [MemoTable T] [LawfulMemoTable T] {G : Grammar S}
    {keys : List Key} (h : G.Flat keys) {p : Parser S α} (hp : p.All Parser.Bare)
    (hkeys : keys.length ≤ 2 ^ 32) {input : Input S.Token}
    (hlength : input.tokens.length < 2 ^ 32 - 2) (consumeAll : Bool) (state : State S T) :
    G.parse Grammar.ampleFuel input consumeAll p state ≠ .exhausted :=
  Grammar.parse_ne_exhausted (h.orderly (Parser.bare_whole hp consumeAll)) hkeys hlength state

theorem Parser.bare_text {ρ τ : Type} (s : String) :
    (Parser.text s : Parser (TextSignature ρ τ) String).All Parser.Bare :=
  bare_tryMap _ ⟨⟨trivial, trivial⟩, rfl⟩

theorem Parser.bare_number {ρ τ : Type} :
    (Parser.number : Parser (TextSignature ρ τ) Int).All Parser.Bare := by
  have hdigit : (Parser.token (S := TextSignature ρ τ) Char.isDigit "digit").All Parser.Bare :=
    ⟨⟨trivial, trivial⟩, rfl⟩
  have hdigits : (Parser.token (S := TextSignature ρ τ) Char.isDigit "digit").many1.All
      Parser.Bare :=
    bare_zipWith _ hdigit ⟨⟨⟨trivial, trivial⟩, rfl⟩, hdigit⟩
  exact ⟨⟨⟨trivial, trivial⟩, rfl⟩, bare_tryMap _ hdigits⟩

namespace Samples

open LeftRec.Parser

/-- The rule of differences under a key, as it is defined once. -/
def subtractionGrammar (parity : Parity) (key : Key) : Grammar IntRule where
  define _ := some (subtractionRule parity key)

theorem bare_differences {e : Parser IntRule Int} (he : e.All Bare) : (differences e).All Bare := by
  have hleft : (e.skip (.text "-")).All Bare := bare_zipWith _ he (bare_text _)
  exact bare_alt (bare_tryMap _ (bare_zipWith _ hleft bare_number)) bare_number

theorem flat_subtraction (parity : Parity) (key : Key) :
    (subtractionGrammar parity key).Flat [key] :=
  fun _ => ⟨parity, key, List.mem_cons_self, _, rfl, bare_differences (bare_ref _)⟩

theorem bare_operation {left right : Parser ArithmeticSignature Int} (sign : String)
    (f : Int → Int → Except Fault Int) (hleft : left.All Bare) (hright : right.All Bare) :
    (operation left sign f right).All Bare :=
  bare_tryMap _ (bare_zipWith _ (bare_zipWith _ hleft (bare_text _)) hright)

theorem bare_factor : factor.All Bare :=
  bare_alt bare_number
    (bare_zipWith _ (bare_zipWith _ (bare_text _) (bare_ref _)) (bare_text _))

theorem flat_arithmetic (parity : Parity) (termKey exprKey : Key) :
    (arithmeticGrammar parity termKey exprKey).Flat [termKey, exprKey] := by
  intro rule
  cases rule with
  | expr =>
      refine ⟨parity, exprKey, List.mem_cons_of_mem _ List.mem_cons_self, _, rfl, ?_⟩
      exact bare_alt (bare_alt (bare_operation _ _ (bare_ref _) (bare_ref _))
        (bare_operation _ _ (bare_ref _) (bare_ref _))) (bare_ref _)
  | term =>
      refine ⟨parity, termKey, List.mem_cons_self, _, rfl, ?_⟩
      exact bare_alt (bare_alt (bare_operation _ _ (bare_ref _) bare_factor)
        (bare_operation _ _ (bare_ref _) bare_factor)) bare_factor

theorem flat_indirect (parity : Parity) (tKey sKey : Key) :
    (indirectGrammar parity tKey sKey).Flat [tKey, sKey] := by
  intro rule
  cases rule with
  | s =>
      exact ⟨parity, sKey, List.mem_cons_of_mem _ List.mem_cons_self, _, rfl,
        bare_alt (bare_tryMap _ (bare_zipWith _ (bare_ref _) (bare_text _))) (bare_text _)⟩
  | t =>
      exact ⟨parity, tKey, List.mem_cons_self, _, rfl,
        bare_alt (bare_tryMap _ (bare_zipWith _ (bare_ref _) (bare_text _))) (bare_text _)⟩

end Samples

end LeftRec
