import LeftRec.Memo.Ordered
import LeftRec.Proofs.ContextMap
import LeftRec.Proofs.Progress
import LeftRec.Proofs.Termination
import LeftRec.Samples.Subtraction

/-!
# Nesting — contexts count the bodies being run

A visit stands inside the visits that led to it, as a call stands inside the calls above it.  Its
context says, for every key, how many bodies memoized under that key it stands inside that were
entered at its own position.  The bound on recursion therefore bounds how often a body is nested in
itself at one position.
-/

namespace LeftRec

variable {S : Signature} {T : Type → Type}

/-! ## Bodies being run -/

/-- The visit is one of a parser that is memoized under the key, at the position.  Where others
stand inside it, it runs its body. -/
def Visit.enters (key : Key) (pos : Nat) (v : Visit S T) : Bool :=
  decide (v.pos = pos) && v.parser.node?.any fun node => decide (node.key = key)

/-- How many bodies memoized under the key are being run that were entered at the position. -/
def active (key : Key) (pos : Nat) (stack : List (Visit S T)) : Nat :=
  stack.countP (Visit.enters key pos)

section Active

variable {key : Key} {pos : Nat} {v : Visit S T} {stack : List (Visit S T)}

theorem active_nil : active key pos ([] : List (Visit S T)) = 0 := rfl

/-- Only memoized parsers enter bodies. -/
theorem active_cons_of_none (h : v.parser.node? = none) :
    active key pos (v :: stack) = active key pos stack := by
  have hv : ¬ v.enters key pos = true := by simp [Visit.enters, h]
  exact List.countP_cons_of_neg hv

theorem active_cons_memo {kind : S.Kind} (parity : Parity) (own : Key)
    (body : Parser S (S.Value kind)) (fuel at' : Nat) (ctx : Context) (state : State S T) :
    active key pos (⟨.memo kind parity own body, fuel, at', ctx, state⟩ :: stack) =
      active key pos stack + if at' = pos ∧ own = key then 1 else 0 := by
  unfold active
  rw [List.countP_cons]
  simp [Visit.enters, Parser.node?]

/-- No body was entered at a position that has not been reached. -/
theorem active_eq_zero (h : ∀ v ∈ stack, v.pos < pos) : active key pos stack = 0 := by
  refine List.countP_eq_zero.2 fun v hv => ?_
  have hne : v.pos ≠ pos := Nat.ne_of_lt (h v hv)
  simp [Visit.enters, hne]

end Active

namespace Grammar

variable [MemoTable T] {G : Grammar S} {input : Input S.Token}

/-! ## Visits with the visits around them -/

/-- A visit in the course of a first one, and the visits that it stands inside, innermost first. -/
inductive Nested (G : Grammar S) (input : Input S.Token) (root : Visit S T) :
    List (Visit S T) → Visit S T → Prop
  | root : Nested G input root [] root
  | enter {stack : List (Visit S T)} {v w : Visit S T} :
      Nested G input root stack v → G.Enters input v w → Nested G input root (v :: stack) w

/-! ## What contexts say -/

/-- The context of a visit counts the bodies around it, and none is nested in itself too often. -/
structure Counted (G : Grammar S) (input : Input S.Token) (stack : List (Visit S T))
    (w : Visit S T) : Prop where
  offered : G.Built Parser.Offered w.parser
  along : w.state.Along (.ahead input)
  /-- The visits around this one began no further on. -/
  behind : ∀ v ∈ stack, v.pos ≤ w.pos
  get? : ∀ key, w.ctx.get? key =
    if active key w.pos stack = 0 then none else some (active key w.pos stack)
  bounded : ∀ key pos, active key pos stack ≤ input.remaining pos + 2

namespace Counted

variable {stack : List (Visit S T)} {v w : Visit S T}

theorem depth_eq (h : G.Counted input stack w) (key : Key) :
    w.ctx.depth key = active key w.pos stack := by
  rw [Context.depth, h.get?]
  split
  next hzero => exact hzero.symm
  next => rfl

theorem behind_cons (h : G.Counted input stack v) {pos : Nat} (hle : v.pos ≤ pos) :
    ∀ u ∈ v :: stack, u.pos ≤ pos := by
  intro u hu
  rcases List.mem_cons.1 hu with rfl | hu
  · exact hle
  · exact Nat.le_trans (h.behind u hu) hle

/-- What a parser that is not memoized goes on with is counted as the parser itself was, or stands
further on, where nothing has been entered yet. -/
theorem carried (h : G.Counted input stack v) (hnode : v.parser.node? = none)
    (hoffered : G.Built Parser.Offered w.parser) (halong : w.state.Along (.ahead input))
    (hle : v.pos ≤ w.pos) (hctx : w.ctx = v.ctx.carried v.pos w.pos) :
    G.Counted input (v :: stack) w where
  offered := hoffered
  along := halong
  behind := h.behind_cons hle
  get? key := by
    rw [active_cons_of_none hnode, hctx, Context.carried]
    split
    next hhere => rw [← hhere, h.get? key]
    -- All bodies around it were entered before the new position, so none counts there.
    next hmoved =>
      have hfresh : active key w.pos stack = 0 :=
        active_eq_zero fun u hu => by
          have := h.behind u hu
          omega
      rw [if_pos hfresh, Context.get?_empty]
  bounded key pos := by
    rw [active_cons_of_none hnode]
    exact h.bounded key pos

/-- A part that begins where the whole does. -/
theorem stays (h : G.Counted input stack v) (hnode : v.parser.node? = none)
    (hoffered : G.Built Parser.Offered w.parser) (halong : w.state.Along (.ahead input))
    (hpos : w.pos = v.pos) (hctx : w.ctx = v.ctx) : G.Counted input (v :: stack) w :=
  h.carried hnode hoffered halong (Nat.le_of_eq hpos.symm)
    (by rw [hctx, hpos, Context.carried_self])

/-- The body of a memoized parser stands inside one body more. -/
theorem body {kind : S.Kind} {parity : Parity} {key : Key} {p : Parser S (S.Value kind)}
    {fuel pos : Nat} {ctx : Context} {state : State S T}
    (h : G.Counted input stack ⟨.memo kind parity key p, fuel, pos, ctx, state⟩)
    (hdepth : ctx.depth key ≤ Run.depthBound (input.remaining pos)) :
    G.Counted input (⟨.memo kind parity key p, fuel, pos, ctx, state⟩ :: stack)
      ⟨p, fuel, pos, ctx.withDepth key (ctx.depth key + 1), state⟩ where
  offered := h.offered.part (.memo kind parity key p)
  along := h.along
  behind := h.behind_cons (Nat.le_refl _)
  get? other := by
    have hget := h.get? other
    have hown := h.depth_eq key
    simp only at hget hown ⊢
    rw [Context.get?_withDepth, active_cons_memo, hown]
    by_cases hkey : other = key
    · subst hkey
      simp
    · simp [hkey, Ne.symm hkey, hget]
  bounded other at' := by
    rw [active_cons_memo]
    split
    next hsame =>
      obtain ⟨rfl, rfl⟩ := hsame
      -- The bound was met when the body was entered, so it is exceeded by one at most.
      have hown : ctx.depth key = active key pos stack := h.depth_eq key
      have hbound := Run.depth_le_of_le_depthBound hdepth
      omega
    next => exact h.bounded other at'

end Counted

/-! ## Repetitions -/

section Progress

variable [LawfulMemoTable T] {α β : Type} {fuel start pos : Nat} {ctx under : Context}
variable {state middle after : State S T} {p : Parser S α}

/-- A run does not go back, and neither does anything that it stores. -/
theorem ahead_of_run (hp : G.Built Parser.Offered p) (hstate : state.Along (.ahead input))
    {o : Outcome α} (h : G.run input fuel p pos ctx state = .done o after) :
    pos ≤ o.pos ∧ after.Along (.ahead input) :=
  along_run hp fuel trivial hstate h

theorem ManyAt.ahead (h : G.ManyAt input fuel p start ctx state pos under middle)
    (hp : G.Built Parser.Offered p) (hstate : state.Along (.ahead input)) :
    start ≤ pos ∧ under = ctx.carried start pos ∧ middle.Along (.ahead input) := by
  induction h with
  | start => exact ⟨Nat.le_refl _, (Context.carried_self _ _).symm, hstate⟩
  | next _ hrun hmoved ih =>
      obtain ⟨hle, -, hmiddle⟩ := ih
      obtain ⟨hmore, hafter⟩ := ahead_of_run hp hmiddle hrun
      rw [Outcome.pos_success] at hmore
      -- The round moved on, so the next one stands beyond the start.
      refine ⟨by omega, ?_, hafter⟩
      rw [Context.carried, if_neg (by omega)]

end Progress

/-! ## One step, and whole runs -/

variable [LawfulMemoTable T] {stack : List (Visit S T)} {root v w : Visit S T}

theorem Counted.enters (h : G.Counted input stack v) (henters : G.Enters input v w) :
    G.Counted input (v :: stack) w := by
  cases henters with
  | count what p => exact h.offered.holds.elim
  | tryMap f p => exact h.stays rfl (h.offered.part (.tryMap f p)) h.along rfl rfl
  | zipWithLeft f p q => exact h.stays rfl (h.offered.part (.zipWithLeft f p q)) h.along rfl rfl
  | zipWithRight f p q hrun =>
      obtain ⟨hle, halong⟩ := ahead_of_run (h.offered.part (.zipWithLeft f p q)) h.along hrun
      exact h.carried rfl (h.offered.part (.zipWithRight f p q)) halong hle rfl
  | bindFirst p f => exact h.stays rfl (h.offered.part (.bindFirst p f)) h.along rfl rfl
  | bindNext p f hrun =>
      obtain ⟨hle, halong⟩ := ahead_of_run (h.offered.part (.bindFirst p f)) h.along hrun
      exact h.carried rfl (h.offered.part (.bindNext p f _)) halong hle rfl
  | altLeft p q => exact h.stays rfl (h.offered.part (.altLeft p q)) h.along rfl rfl
  | altRight p q hrun _ =>
      obtain ⟨-, halong⟩ := ahead_of_run (h.offered.part (.altLeft p q)) h.along hrun
      exact h.stays rfl (h.offered.part (.altRight p q)) halong rfl rfl
  | label name p => exact h.stays rfl (h.offered.part (.label name p)) h.along rfl rfl
  | commit p => exact h.stays rfl (h.offered.part (.commit p)) h.along rfl rfl
  | look p => exact h.stays rfl (h.offered.part (.look p)) h.along rfl rfl
  | row count part hat =>
      obtain ⟨hle, halong⟩ := hat.along h.offered.parts trivial h.along
      exact h.carried rfl (h.offered.parts _ (hat.mem _ List.mem_cons_self)) halong hle rfl
  | many p hat =>
      obtain ⟨hle, hunder, halong⟩ := hat.ahead (h.offered.part (.many p)) h.along
      exact h.carried rfl (h.offered.part (.many p)) halong hle hunder
  | memo parity key p _ hdepth _ => exact h.body hdepth
  | ref hdefine => exact h.stays rfl (h.offered.rule hdefine) h.along rfl rfl
  | copy hfill =>
      obtain ⟨⟨_, hcopy⟩, hmemo⟩ := fill_eq_ok hfill
      exact h.stays rfl (h.offered.copy hcopy) (h.along.of_memo hmemo) rfl rfl

theorem Counted.nested (h : G.Counted input [] root) (hnested : G.Nested input root stack w) :
    G.Counted input stack w := by
  induction hnested with
  | root => exact h
  | enter _ henters ih => exact ih.enters henters

/-- In a run from the empty context, what a context tracks for a key is how many bodies memoized
under it are being run that were entered at the present position.  No body is nested in itself at
one position more often than the tokens that remain there, plus two, and on an input that is not too
long the depth of a body that may be entered can always be counted. -/
theorem context_counts_active (hoffered : G.Built Parser.Offered root.parser) (hctx : root.ctx = ∅)
    (hstate : root.state.Along (.ahead input)) (hnested : G.Nested input root stack w)
    (key : Key) :
    (w.ctx.get? key =
      if active key w.pos stack = 0 then none else some (active key w.pos stack)) ∧
    (∀ depth, w.ctx.get? key = some depth → depth ≤ input.remaining w.pos + 2) ∧
    (∀ pos, active key pos stack ≤ input.remaining pos + 2) ∧
    (input.tokens.length < 2 ^ 32 - 2 →
      w.ctx.depth key ≤ Run.depthBound (input.remaining w.pos) →
        Run.deepen w.ctx key = .ok (w.ctx.withDepth key (w.ctx.depth key + 1))) := by
  have hroot : G.Counted input [] root :=
    { offered := hoffered
      along := hstate
      behind := fun _ hv => (List.not_mem_nil hv).elim
      get? := fun key => by rw [hctx, Context.get?_empty, active_nil, if_pos rfl]
      bounded := fun _ _ => Nat.zero_le _ }
  have hcounted := hroot.nested hnested
  have hdepth := hcounted.depth_eq key
  have hbounded := hcounted.bounded key
  refine ⟨hcounted.get? key, fun depth hget => ?_, hbounded, fun hlength hbound => ?_⟩
  · have hsame : w.ctx.depth key = depth := by rw [Context.depth, hget, Option.getD_some]
    have := hbounded w.pos
    omega
  · exact Run.deepen_eq_ok.2 ⟨Run.depth_lt_depthLimit hlength hbound, rfl⟩

/-- The body of a difference that is being run as the left side of another one. -/
theorem context_counts_active_difference :
    let G : Grammar Samples.IntRule :=
      { define := fun _ => some (Samples.subtractionRule .even (.id 0)) }
    let e : Parser Samples.IntRule Int := .ref (S := Samples.IntRule) ()
    ∃ (stack : List (Visit Samples.IntRule OrderedTable)) (ctx : Context),
      G.Nested (Input.ofText "2-1") ⟨e, 3, 0, ∅, .new⟩ stack
        ⟨Samples.differences e, 1, 0, ctx, .new⟩ ∧
      active (.id 0) 0 stack = 2 ∧ ctx.get? (.id 0) = some 2 ∧
      Run.deepen ctx (.id 0) = .ok (ctx.withDepth (.id 0) 3) := by
  intro G e
  have hoffered : G.Built Parser.Offered e := by
    refine Built.of_all trivial (fun rule body hdefine => ?_) fun rule workshop body hcopy => ?_
    · obtain rfl := Option.some.inj hdefine
      have hnumber : (Parser.number : Parser Samples.IntRule Int).All Parser.Offered :=
        ⟨trivial, trivial, trivial, trivial, trivial, trivial⟩
      exact ⟨trivial, trivial, ⟨trivial, trivial, ⟨trivial, trivial, trivial, trivial⟩, hnumber⟩,
        hnumber⟩
    · cases hcopy
  have hmissed (ctx : Context) :
      Run.Missed (S := Samples.IntRule) (T := OrderedTable) .new () (.id 0) 0 ctx := by
    intro o under hlookup
    have hnone := State.noEntries_new (S := Samples.IntRule) (T := OrderedTable) () (.id 0) 0
    cases hnone.symm.trans hlookup
  -- Down to the body, along its left edge to the reference, and into the body once more.
  have houter : G.Nested (T := OrderedTable) (Input.ofText "2-1") ⟨e, 3, 0, ∅, .new⟩ _
      ⟨Samples.differences e, 2, 0, _, .new⟩ :=
    (Nested.root.enter (.ref rfl)).enter
      (.memo .even (.id 0) (Samples.differences e) (hmissed ∅) (by decide) (by decide))
  have hedge := (((houter.enter (.altLeft _ _)).enter (.tryMap _ _)).enter
    (.zipWithLeft _ _ _)).enter (.zipWithLeft _ _ _)
  have hinner := (hedge.enter (.ref rfl)).enter
    (.memo .even (.id 0) (Samples.differences e) (hmissed _) (by decide) (by decide))
  obtain ⟨hget, -, -, hdeepen⟩ :=
    context_counts_active hoffered rfl (State.noEntries_new.along _) hinner (.id 0)
  exact ⟨_, _, hinner, rfl, hget, hdeepen (by decide) (by decide)⟩

end Grammar

end LeftRec
