import LeftRec.Proofs.Nesting
import LeftRec.Proofs.Succession

/-!
# Levels — how often a left-recursive body is run

A rule that begins with itself goes one level deeper before anything else, until it is curtailed.
Nothing is found in the table on the way down, since nothing is stored before the innermost level
comes back.  On the way up no level begins again: what is left of a body does not refer to the rule.
So the body is run once for every level, and the bound says how many levels there are.
-/

namespace LeftRec

variable {S : Signature} {T : Type → Type} {α : Type}

/-- What the parser runs first is the rule, and nothing else in it is memoized or refers to a
rule. -/
def Parser.OpensWith (rule : S.Rule) : {α : Type} → Parser S α → Prop
  | _, .ref other => other = rule
  | _, .count _ p => p.OpensWith rule
  | _, .tryMap _ p => p.OpensWith rule
  | _, .zipWith _ p q => p.OpensWith rule ∧ q.All Plain
  | _, .alt p q => p.OpensWith rule ∧ q.All Plain
  | _, _ => False

theorem Parser.node?_of_plain {p : Parser S α} (hp : p.Plain) : p.node? = none := by
  cases p with
  | memo kind parity key p => exact hp.elim
  | unit | fail | literal | token | find | all | eof | scan | custom | count | tryMap | zipWith
  | bind | alt | label | commit | look | row | many | ref | delay => rfl

/-- Only memoized parsers are visited as such. -/
theorem Visit.enters_of_none {key : Key} {pos : Nat} {v : Visit S T} (h : v.parser.node? = none) :
    v.enters key pos = false := by
  simp [enters, h]

namespace Grammar

variable [MemoTable T] {G : Grammar S} {input : Input S.Token} {key : Key} {pos : Nat}

/-! ## The bodies of a run -/

variable (G input) in
/-- The bodies memoized under the key that are run at the position in the course of a visit. -/
def bodies (key : Key) (pos : Nat) (v : Visit S T) : List (Visit S T) :=
  ((G.invocations input v).filter (Visit.enters key pos)).flatMap (G.entered input)

theorem bodies_eq (v : Visit S T) :
    G.bodies input key pos v =
      (if v.enters key pos then G.entered input v else []) ++
        (G.entered input v).flatMap (G.bodies input key pos) := by
  have hbelow : (((G.entered input v).flatMap (G.invocations input)).filter
      (Visit.enters key pos)).flatMap (G.entered input) =
        (G.entered input v).flatMap (G.bodies input key pos) := by
    rw [List.filter_flatMap, List.flatMap_assoc]
    rfl
  rw [bodies, invocations_eq, List.filter_cons]
  split
  · rw [List.flatMap_cons, hbelow]
  · exact hbelow

theorem bodies_of_none {v : Visit S T} (h : v.parser.node? = none) :
    G.bodies input key pos v = (G.entered input v).flatMap (G.bodies input key pos) := by
  rw [bodies_eq, Visit.enters_of_none h]
  rfl

/-- What a plain parser enters is plain. -/
theorem Enters.plain {v w : Visit S T} (h : G.Enters input v w)
    (hv : v.parser.All Parser.Plain) : w.parser.All Parser.Plain := by
  cases h with
  | memo parity key p => exact hv.1.elim
  | ref | copy => exact hv.elim
  | count | tryMap | label | commit | look | many => exact hv.2
  | zipWithLeft | bindFirst | altLeft => exact hv.2.1
  | zipWithRight | altRight => exact hv.2.2
  | bindNext p f hrun => exact hv.2.2 _
  | row count part hat =>
      obtain ⟨i, rfl⟩ := (List.mem_ofFn' part _).1 (hat.mem _ List.mem_cons_self)
      exact hv.2 i

/-- A plain parser runs no memoized bodies. -/
theorem bodies_of_plain :
    ∀ v : Visit S T, v.parser.All Parser.Plain → G.bodies input key pos v = [] := by
  refine visit_induction G input fun v ih hv => ?_
  rw [bodies_of_none (Parser.node?_of_plain hv.holds), List.flatMap_eq_nil_iff]
  intro w hw
  have henters := enters_of_mem hw
  exact ih w henters (henters.plain hv)

/-! ## One level inside another -/

/-- The bodies that are run from within a parser that opens with a rule are those that are run from
within the rule. -/
theorem exists_bodies_eq {rule : S.Rule} {p : Parser S α} (hp : p.OpensWith rule)
    (fuel start : Nat) (ctx : Context) (state : State S T) :
    ∃ inner : State S T, inner.memo = state.memo ∧
      G.bodies input key pos ⟨p, fuel, start, ctx, state⟩ =
        G.bodies input key pos ⟨.ref rule, fuel, start, ctx, inner⟩ := by
  induction p generalizing state with
  | ref other =>
      obtain rfl : other = rule := hp
      exact ⟨state, rfl, rfl⟩
  | count what p ih =>
      obtain ⟨inner, hmemo, hinner⟩ := ih hp (state.count what)
      refine ⟨inner, hmemo, ?_⟩
      rw [bodies_of_none rfl, ← hinner]
      exact List.flatMap_singleton _ _
  | tryMap f p ih =>
      obtain ⟨inner, hmemo, hinner⟩ := ih hp state
      refine ⟨inner, hmemo, ?_⟩
      rw [bodies_of_none rfl, ← hinner]
      exact List.flatMap_singleton _ _
  | zipWith f p q ihp =>
      obtain ⟨inner, hmemo, hinner⟩ := ihp hp.1 state
      refine ⟨inner, hmemo, ?_⟩
      rw [bodies_of_none rfl, ← hinner, entered, List.flatMap_cons, List.append_right_eq_self]
      refine List.flatMap_eq_nil_iff.2 fun w hw => ?_
      obtain ⟨s, middle, -, hw⟩ := Result.mem_behindSuccess.1 hw
      obtain rfl := List.mem_singleton.1 hw
      exact bodies_of_plain _ hp.2
  | alt p q ihp =>
      obtain ⟨inner, hmemo, hinner⟩ := ihp hp.1 state
      refine ⟨inner, hmemo, ?_⟩
      rw [bodies_of_none rfl, ← hinner, entered, List.flatMap_cons, List.append_right_eq_self]
      refine List.flatMap_eq_nil_iff.2 fun w hw => ?_
      obtain ⟨e, middle, -, -, hw⟩ := Result.mem_behindFailure.1 hw
      obtain rfl := List.mem_singleton.1 hw
      exact bodies_of_plain _ hp.2
  | unit | fail | literal | token | find | all | eof | scan | custom | bind | label | commit | look
  | row | many | memo | delay => exact hp.elim

variable {rule : S.Rule} {parity : Parity} {body : Parser S (S.Value (S.kind rule))}

/-- Within the bound the body is run, and its own bodies behind it.  Beyond it there is none. -/
theorem bodies_of_level (hdefine : G.define rule = some (.memo (S.kind rule) parity key body))
    (hlength : input.tokens.length < 2 ^ 32 - 2) (fuel : Nat) {ctx : Context} {state : State S T}
    (hstate : state.lookup (S.kind rule) key pos = none) :
    G.bodies input key pos ⟨.ref rule, fuel + 1, pos, ctx, state⟩ =
      if ctx.depth key ≤ input.remaining pos + 1 then
        let v := ⟨body, fuel, pos, ctx.withDepth key (ctx.depth key + 1), state⟩
        v :: G.bodies input key pos v
      else [] := by
  have hmissed : Run.Missed state (S.kind rule) key pos ctx := by
    intro o under hlookup
    cases hstate.symm.trans hlookup
  let node : Visit S T := ⟨.memo (S.kind rule) parity key body, fuel, pos, ctx, state⟩
  have hrule : G.entered input ⟨.ref rule, fuel + 1, pos, ctx, state⟩ = [node] := by
    simp only [entered, hdefine]
    rfl
  have hnode : node.enters key pos = true := by simp [node, Visit.enters, Parser.node?]
  -- On an input that is not too long, depths beyond the bound are the only ones not entered.
  have hmay : (ctx.depth key ≤ Run.depthBound (input.remaining pos) ∧
      ctx.depth key < Context.depthLimit) ↔ ctx.depth key ≤ input.remaining pos + 1 := by
    have hremaining := input.remaining_le_length pos
    rw [Run.depthBound_of_length hlength, Context.depthLimit]
    omega
  rw [bodies_of_none rfl, hrule, List.flatMap_singleton, bodies_eq, hnode, if_pos rfl,
    entered_of_missed hmissed]
  simp only [hmay]
  split
  · rw [List.flatMap_singleton]
    rfl
  · rfl

/-- From each level on, the body is run once for every level that may still be entered. -/
theorem length_bodies (hdefine : G.define rule = some (.memo (S.kind rule) parity key body))
    (hbody : body.OpensWith rule) (hlength : input.tokens.length < 2 ^ 32 - 2) {n fuel : Nat}
    {ctx : Context} {state : State S T}
    (hlevels : ctx.depth key + n = input.remaining pos + 2) (hfuel : n < fuel)
    (hstate : state.lookup (S.kind rule) key pos = none) :
    (G.bodies input key pos ⟨.ref rule, fuel, pos, ctx, state⟩).length = n := by
  -- The induction is on the levels that are left, with the depth going up to the bound.
  induction n generalizing fuel ctx state with
  | zero =>
      obtain ⟨less, rfl⟩ : ∃ less, fuel = less + 1 := ⟨fuel - 1, by omega⟩
      rw [bodies_of_level hdefine hlength less hstate, if_neg (by omega), List.length_nil]
  | succ n ih =>
      obtain ⟨less, rfl⟩ : ∃ less, fuel = less + 1 := ⟨fuel - 1, by omega⟩
      let deeper := ctx.withDepth key (ctx.depth key + 1)
      have hdeeper : deeper.depth key = ctx.depth key + 1 := by
        rw [Context.depth_withDepth, if_pos rfl]
      obtain ⟨inner, hmemo, hinner⟩ := exists_bodies_eq hbody less pos deeper state
      have hnone : inner.lookup (S.kind rule) key pos = none := by
        rw [State.lookup, hmemo]
        exact hstate
      rw [bodies_of_level hdefine hlength less hstate, if_pos (by omega), List.length_cons, hinner,
        ih (by omega) (by omega) hnone]

end Grammar

end LeftRec
