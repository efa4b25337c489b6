import Mathlib.Algebra.GroupWithZero.Nat
import Mathlib.Algebra.Order.BigOperators.Group.List
import Mathlib.Algebra.Order.Group.Nat
import Mathlib.Data.Prod.Lex
import LeftRec.Memo.Ordered
import LeftRec.Proofs.ContextMap
import LeftRec.Proofs.Onward
import LeftRec.Samples.Indirect

/-!
# Termination — memoized rules end on every input

Where every rule is memoized, each call of a rule either consumed something since the rules around
it began, or raises the depth of its key at one position.  Depths are bounded by the tokens that
remain, and there are finitely many keys.  So the tokens that remain, then the room that is left
below the bounds, then the structure of the parser decrease from a run to the runs inside it.

A computation that depends on an amount of fuel ends if from some amount on its result stays the
same and is an outcome or an expected fault.
-/

namespace LeftRec

/-! ## Computations that end -/

/-- The result is a value, or one of the expected faults. -/
def Result.Settled {σ α : Type} (expected : Fault → Prop) : Result σ α → Prop
  | .exhausted => False
  | .stopped fault _ => expected fault
  | .done .. => True

/-- From some amount of fuel on, the computation has one settled result. -/
def Eval.Ends {σ α : Type} (expected : Fault → Prop) (x : Nat → Eval σ α) (state : σ) : Prop :=
  ∃ r : Result σ α, r.Settled expected ∧ ∃ enough, ∀ n, enough ≤ n → x n state = r

namespace Eval

variable {σ α β : Type} {expected : Fault → Prop} {state : σ}

theorem ends_of_eq {x : Nat → Eval σ α} {r : Result σ α} (hr : r.Settled expected)
    (h : ∀ n, x n state = r) : Ends expected x state :=
  ⟨r, hr, 0, fun n _ => h n⟩

theorem ends_of_done {x : Nat → Eval σ α} {a : α} {after : σ}
    (h : ∀ n, x n state = .done a after) : Ends expected x state :=
  ends_of_eq (r := .done a after) trivial h

theorem ends_pure (a : α) : Ends expected (fun _ => (pure a : Eval σ α)) state :=
  ends_of_done fun _ => rfl

theorem ends_ofExcept {x : Except Fault α} (h : ∀ fault, x = .error fault → expected fault) :
    Ends expected (fun _ => (ofExcept x : Eval σ α)) state := by
  cases x with
  | ok a => exact ends_pure a
  | error fault => exact ends_of_eq (r := .stopped fault state) (h fault rfl) fun _ => rfl

/-- The rest need end only where the first part may lead. -/
theorem Ends.bind {x : Nat → Eval σ α} {f : Nat → α → Eval σ β} (hx : Ends expected x state)
    (hf : ∀ n a middle, x n state = .done a middle → Ends expected (fun n => f n a) middle) :
    Ends expected (fun n => x n >>= f n) state := by
  obtain ⟨r, hr, enough, henough⟩ := hx
  cases r with
  | exhausted => exact hr.elim
  | stopped fault next =>
      refine ⟨.stopped fault next, hr, enough, fun n hn => ?_⟩
      show (x n >>= f n) state = _
      rw [bind_apply, henough n hn]
  | done a middle =>
      -- What the rest does is known from the middle that enough fuel leads to.
      obtain ⟨r, hr, more, hmore⟩ := hf enough a middle (henough enough (Nat.le_refl _))
      refine ⟨r, hr, max enough more, fun n hn => ?_⟩
      show (x n >>= f n) state = _
      rw [bind_apply, henough n (by omega)]
      exact hmore n (by omega)

theorem Ends.map {x : Nat → Eval σ α} (g : α → β) (hx : Ends expected x state) :
    Ends expected (fun n => g <$> x n) state := by
  simp only [map_eq_pure_bind]
  exact hx.bind fun _ _ _ _ => ends_pure _

theorem Ends.congr {x y : Nat → Eval σ α} (least : Nat) (h : ∀ n, least ≤ n → x n = y n)
    (hy : Ends expected y state) : Ends expected x state := by
  obtain ⟨r, hr, enough, henough⟩ := hy
  refine ⟨r, hr, max least enough, fun n hn => ?_⟩
  rw [h n (by omega)]
  exact henough n (by omega)

/-- The fuel may be one less. -/
theorem Ends.of_succ {x : Nat → Eval σ α} (h : Ends expected (fun n => x (n + 1)) state) :
    Ends expected x state := by
  obtain ⟨r, hr, enough, henough⟩ := h
  refine ⟨r, hr, enough + 1, fun n hn => ?_⟩
  obtain ⟨m, rfl⟩ : ∃ m, n = m + 1 := ⟨n - 1, by omega⟩
  exact henough m (by omega)

end Eval

/-! ## The room below the bounds -/

section Size

variable {τ : Type} {input : Input τ} {keys : List Key} {pos : Nat} {ctx : Context} {key : Key}

/-- How often the rules of some keys may still be entered at a position. -/
def room (input : Input τ) (keys : List Key) (pos : Nat) (ctx : Context) : Nat :=
  (keys.map fun key => input.remaining pos + 2 - ctx.depth key).sum

/-- The tokens that remain, and then the room at the position. -/
def size (input : Input τ) (keys : List Key) (pos : Nat) (ctx : Context) : Nat ×ₗ Nat :=
  toLex (input.remaining pos, room input keys pos ctx)

/-- Entering a rule takes no room from others and one place from its own. -/
theorem room_withDepth_le :
    room input keys pos (ctx.withDepth key (ctx.depth key + 1)) ≤ room input keys pos ctx := by
  refine List.sum_le_sum fun other _ => ?_
  rw [Context.depth_withDepth]
  split
  next h =>
    rw [h]
    omega
  next => exact Nat.le_refl _

theorem room_withDepth_lt (hkey : key ∈ keys) (hdepth : ctx.depth key ≤ input.remaining pos + 1) :
    room input keys pos (ctx.withDepth key (ctx.depth key + 1)) < room input keys pos ctx := by
  -- No term of the sum grows, and the one of the rule itself shrinks.
  refine List.sum_lt_sum _ _ (fun other _ => ?_) ⟨key, hkey, ?_⟩
  · rw [Context.depth_withDepth]
    split
    next h =>
      rw [h]
      omega
    next => exact Nat.le_refl _
  · rw [Context.depth_withDepth, if_pos rfl]
    omega

theorem size_withDepth_le :
    size input keys pos (ctx.withDepth key (ctx.depth key + 1)) ≤ size input keys pos ctx :=
  Prod.Lex.toLex_le_toLex.2 (.inr ⟨rfl, room_withDepth_le⟩)

theorem size_withDepth_lt (hkey : key ∈ keys) (hdepth : ctx.depth key ≤ input.remaining pos + 1) :
    size input keys pos (ctx.withDepth key (ctx.depth key + 1)) < size input keys pos ctx :=
  Prod.Lex.toLex_lt_toLex.2 (.inr ⟨rfl, room_withDepth_lt hkey hdepth⟩)

/-- Consuming something makes the size smaller, whatever is tracked afterwards. -/
theorem size_lt_of_reads {stop : Nat} {word : List τ} {ctx' : Context}
    (h : input.Reads pos word stop) (hne : stop ≠ pos) :
    size input keys stop ctx' < size input keys pos ctx :=
  Prod.Lex.toLex_lt_toLex.2 (.inl (h.remaining_lt hne))

/-- What follows a part has no larger size. -/
theorem size_carried_le {stop : Nat} {word : List τ} (h : input.Reads pos word stop) :
    size input keys stop (ctx.carried pos stop) ≤ size input keys pos ctx := by
  by_cases hne : stop = pos
  · subst hne
    rw [Context.carried, if_pos rfl]
  -- The context is empty now, but fewer tokens weigh more than any room.
  · exact le_of_lt (size_lt_of_reads h hne)

end Size

/-! ## Runs that end below a size -/

variable {S : Signature} {T : Type → Type} [MemoTable T] {α β γ : Type}

namespace Run

/-- From every boundary where the size is within the bound, the runs end. -/
def EndsBelow (input : Input S.Token) (keys : List Key) (expected : Fault → Prop)
    (bound : Nat ×ₗ Nat) (p : Nat → Run S T α) : Prop :=
  ∀ ⦃pos ctx state⦄, input.Boundary pos → state.Onward input → size input keys pos ctx ≤ bound →
    Eval.Ends expected (fun n => p n pos ctx) state

variable {input : Input S.Token} {keys : List Key} {expected : Fault → Prop}
variable {bound : Nat ×ₗ Nat} {p : Nat → Run S T α} {q : Nat → Run S T β}

/-! ### Sequences -/

theorem EndsBelow.tryMap {f : α → Except Fault β}
    (hf : ∀ a fault, f a = .error fault → expected fault)
    (hp : EndsBelow input keys expected bound p) :
    EndsBelow input keys expected bound fun n => Run.tryMap f (p n) := by
  intro pos ctx state hpos hstate hsize
  refine (hp hpos hstate hsize).bind fun n first middle _ => ?_
  cases first with
  | failure e => exact Eval.ends_pure _
  | success s => exact (Eval.ends_ofExcept (hf s.value)).map _

/-- What follows a part ends as well. -/
theorem EndsBelow.second (hq : EndsBelow input keys expected bound q)
    (hp : ∀ n, GoesOn input (p n)) {pos n : Nat} {ctx : Context} {state middle : State S T}
    {s : Success α} (hpos : input.Boundary pos) (hstate : state.Onward input)
    (hsize : size input keys pos ctx ≤ bound)
    (hfirst : p n pos ctx state = .done (.success s) middle) :
    Eval.Ends expected (fun n => q n s.pos (ctx.carried pos s.pos)) middle := by
  obtain ⟨⟨word, hword⟩, hmiddle⟩ := hp n hpos hstate hfirst
  exact hq (hword.boundary hpos) hmiddle (le_trans (size_carried_le hword) hsize)

theorem EndsBelow.bind {f : α → Nat → Run S T β} (hp : EndsBelow input keys expected bound p)
    (hgoes : ∀ n, GoesOn input (p n)) (hf : ∀ a, EndsBelow input keys expected bound (f a)) :
    EndsBelow input keys expected bound fun n => Run.bind (p n) fun a => f a n := by
  intro pos ctx state hpos hstate hsize
  refine (hp hpos hstate hsize).bind fun n first middle hfirst => ?_
  cases first with
  | failure e => exact Eval.ends_pure _
  | success s =>
      have hsecond := (hf s.value).second hgoes hpos hstate hsize hfirst
      exact hsecond.bind fun _ _ _ _ => Eval.ends_pure _

theorem EndsBelow.zipWith (f : α → β → γ) (hp : EndsBelow input keys expected bound p)
    (hgoes : ∀ n, GoesOn input (p n)) (hq : EndsBelow input keys expected bound q) :
    EndsBelow input keys expected bound fun n => Run.zipWith f (p n) (q n) := by
  intro pos ctx state hpos hstate hsize
  refine (hp hpos hstate hsize).bind fun n first middle hfirst => ?_
  cases first with
  | failure e => exact Eval.ends_pure _
  | success s =>
      have hsecond := hq.second hgoes hpos hstate hsize hfirst
      exact hsecond.bind fun _ _ _ _ => Eval.ends_pure _

/-- A part of a row that began at `start` ends, and so does what follows it. -/
theorem endsBelow_rowFrom {ι : Type 1} {part : ι → Nat → Run S T α} {parts : List ι}
    (hparts : ∀ i ∈ parts, EndsBelow input keys expected bound (part i))
    (hgoes : ∀ i ∈ parts, ∀ n, GoesOn input (part i n)) {start : Nat} {ctx : Context}
    (hsize : size input keys start ctx ≤ bound) {pos : Nat} {word : List S.Token}
    (hword : input.Reads start word pos) (used : Used) {state : State S T}
    (hpos : input.Boundary pos) (hstate : state.Onward input) :
    Eval.Ends expected
      (fun n => rowFrom start ctx (parts.map fun i => part i n) pos used) state := by
  induction parts generalizing pos word used state with
  | nil => exact Eval.ends_pure _
  | cons i rest ih =>
      have hi := hparts i List.mem_cons_self hpos hstate (le_trans (size_carried_le hword) hsize)
      refine hi.bind fun n first middle hfirst => ?_
      obtain ⟨⟨more, hmore⟩, hmiddle⟩ := hgoes i List.mem_cons_self n hpos hstate hfirst
      cases first with
      | failure e => exact Eval.ends_pure _
      | success s =>
          have hrest := ih (fun j hj => hparts j (List.mem_cons_of_mem _ hj))
            (fun j hj => hgoes j (List.mem_cons_of_mem _ hj)) (hword.append hmore)
            (Used.sequenced start s.pos used s.used) (hmore.boundary hpos) hmiddle
          exact hrest.map _

theorem endsBelow_row {ι : Type 1} {part : ι → Nat → Run S T α} {parts : List ι}
    (hparts : ∀ i ∈ parts, EndsBelow input keys expected bound (part i))
    (hgoes : ∀ i ∈ parts, ∀ n, GoesOn input (part i n)) :
    EndsBelow input keys expected bound fun n => row (parts.map fun i => part i n) := by
  intro pos ctx state hpos hstate hsize
  cases parts with
  | nil => exact Eval.ends_pure _
  | cons i rest =>
      refine (hparts i List.mem_cons_self hpos hstate hsize).bind fun n first middle hfirst => ?_
      obtain ⟨⟨word, hword⟩, hmiddle⟩ := hgoes i List.mem_cons_self n hpos hstate hfirst
      cases first with
      | failure e => exact Eval.ends_pure _
      | success s =>
          have hrest := endsBelow_rowFrom (fun j hj => hparts j (List.mem_cons_of_mem _ hj))
            (fun j hj => hgoes j (List.mem_cons_of_mem _ hj)) hsize hword s.used
            (hword.boundary hpos) hmiddle
          exact hrest.map _

/-! ### Choice -/

theorem EndsBelow.alt {q : Nat → Run S T α} (hp : EndsBelow input keys expected bound p)
    (hgoes : ∀ n, GoesOn input (p n)) (hq : EndsBelow input keys expected bound q) :
    EndsBelow input keys expected bound fun n => Run.alt (p n) (q n) := by
  intro pos ctx state hpos hstate hsize
  refine (hp hpos hstate hsize).bind fun n first middle hfirst => ?_
  cases first with
  | success s => exact Eval.ends_pure _
  | failure e =>
      cases he : e.isFatal with
      | true =>
          simp only [he, if_true]
          exact Eval.ends_pure _
      | false =>
          simp only [he, Bool.false_eq_true, if_false]
          have hmiddle := (hgoes n hpos hstate hfirst).2
          refine (hq hpos hmiddle hsize).bind fun _ second _ _ => ?_
          cases second with
          | success s => exact Eval.ends_pure _
          | failure second => exact Eval.ends_pure _

theorem EndsBelow.label (name : String) (hp : EndsBelow input keys expected bound p) :
    EndsBelow input keys expected bound fun n => Run.label name (p n) :=
  fun _ _ _ hpos hstate hsize =>
    (hp hpos hstate hsize).bind fun _ _ _ _ => Eval.ends_pure _

theorem EndsBelow.commit (hp : EndsBelow input keys expected bound p) :
    EndsBelow input keys expected bound fun n => Run.commit (p n) :=
  fun _ _ _ hpos hstate hsize =>
    (hp hpos hstate hsize).bind fun _ _ _ _ => Eval.ends_pure _

theorem EndsBelow.look (hp : EndsBelow input keys expected bound p) :
    EndsBelow input keys expected bound fun n => Run.look (p n) :=
  fun _ _ _ hpos hstate hsize =>
    (hp hpos hstate hsize).bind fun _ _ _ _ => Eval.ends_pure _

/-! ### Repetition -/

/-- Every round but the last takes a token, so the rounds do not run out.  They are counted here as
what is left of the fuel after `spent` rounds. -/
theorem endsBelow_manyFrom (hp : EndsBelow input keys expected bound p)
    (hgoes : ∀ n, GoesOn input (p n)) {pos : Nat} {state : State S T}
    (hpos : input.Boundary pos) (hstate : state.Onward input)
    (hsize : size input keys pos ∅ ≤ bound) (spent : Nat) :
    Eval.Ends expected (fun n => manyFrom (p n) (n - spent) pos) state := by
  induction hremaining : input.remaining pos using Nat.strong_induction_on
    generalizing pos state spent with
  | h remaining ih =>
      -- With enough fuel there is a round left, so the repetition unfolds once.
      have hround : ∀ n, spent + 1 ≤ n →
          manyFrom (p n) (n - spent) pos = manyFrom (p n) (n - (spent + 1) + 1) pos := by
        intro n hn
        rw [show n - spent = n - (spent + 1) + 1 by omega]
      refine Eval.Ends.congr (spent + 1) hround ?_
      refine (hp hpos hstate hsize).bind fun n first middle hfirst => ?_
      obtain ⟨⟨word, hword⟩, hmiddle⟩ := hgoes n hpos hstate hfirst
      cases first with
      | failure e => exact Eval.ends_pure _
      | success s =>
          by_cases hs : s.pos = pos
          · simp only [hs, if_true]
            exact Eval.ends_pure _
          · simp only [hs, if_false]
            have hless : input.remaining s.pos < remaining := by
              rw [← hremaining]
              exact hword.remaining_lt hs
            have hsize' : size input keys s.pos ∅ ≤ bound :=
              calc size input keys s.pos ∅
                  ≤ size input keys pos ∅ := le_of_lt (size_lt_of_reads hword hs)
                _ ≤ bound := hsize
            exact (ih _ hless (hword.boundary hpos) hmiddle hsize' (spent + 1) rfl).map _

theorem EndsBelow.many (hp : EndsBelow input keys expected bound p)
    (hgoes : ∀ n, GoesOn input (p n)) :
    EndsBelow input keys expected bound fun n => Run.many n (p n) := by
  intro pos ctx state hpos hstate hsize
  refine (hp hpos hstate hsize).bind fun n first middle hfirst => ?_
  obtain ⟨⟨word, hword⟩, hmiddle⟩ := hgoes n hpos hstate hfirst
  cases first with
  | failure e => exact Eval.ends_pure _
  | success s =>
      by_cases hs : s.pos = pos
      · simp only [hs, if_true]
        exact Eval.ends_pure _
      · simp only [hs, if_false]
        have hsize' : size input keys s.pos ∅ ≤ bound :=
          calc size input keys s.pos ∅
              ≤ size input keys pos ctx := le_of_lt (size_lt_of_reads hword hs)
            _ ≤ bound := hsize
        exact (endsBelow_manyFrom hp hgoes (hword.boundary hpos) hmiddle hsize' 0).map _

/-! ### Memoization -/

/-- The tokens are so few that depths up to the bound can be counted. -/
theorem depth_lt_depthLimit (hlength : input.tokens.length < 2 ^ 32 - 2) {pos : Nat}
    {ctx : Context} {key : Key} (h : ctx.depth key ≤ depthBound (input.remaining pos)) :
    ctx.depth key + 1 ≤ Context.depthLimit := by
  have hremaining := input.remaining_le_length pos
  simp only [depthBound, Context.depthLimit] at h ⊢
  omega

/-- On such an input, the tokens that remain are what bounds the depth. -/
theorem depthBound_of_length (hlength : input.tokens.length < 2 ^ 32 - 2) (pos : Nat) :
    depthBound (input.remaining pos) = input.remaining pos + 1 := by
  have hremaining := input.remaining_le_length pos
  simp only [depthBound, Context.depthLimit]
  omega

theorem depth_le_of_le_depthBound {remaining depth : Nat} (h : depth ≤ depthBound remaining) :
    depth ≤ remaining + 1 :=
  le_trans h (Nat.min_le_left _ _)

/-- A memoized rule ends where its body ends one level deeper. -/
theorem ends_memo (hlength : input.tokens.length < 2 ^ 32 - 2) (kind : S.Kind) (parity : Parity)
    (key : Key) {body : Nat → Run S T (S.Value kind)} {pos : Nat} {ctx : Context}
    {state : State S T}
    (hbody : ctx.depth key ≤ depthBound (input.remaining pos) →
      Eval.Ends expected (fun n => body n pos (ctx.withDepth key (ctx.depth key + 1))) state) :
    Eval.Ends expected (fun n => memo input kind parity key (body n) pos ctx) state := by
  -- Which exit is taken depends on the state and the context, and not on the fuel.
  rcases hit_or_missed state kind key pos ctx with ⟨o, under, hlookup, hreuse⟩ | hmissed
  · exact Eval.ends_of_done fun _ => memo_of_hit hlookup hreuse
  · by_cases hdepth : depthBound (input.remaining pos) < ctx.depth key
    · exact Eval.ends_of_done fun _ => (memo_of_missed hmissed).trans (if_pos hdepth)
    · have hle := Nat.not_lt.1 hdepth
      have hrefresh : Eval.Ends expected
          (fun n => refresh input kind parity key (body n) pos ctx) state := by
        unfold refresh
        rw [deepen_eq_ok.2 ⟨depth_lt_depthLimit hlength hle, rfl⟩]
        exact (hbody hle).bind fun _ _ _ _ => Eval.ends_of_done fun _ => rfl
      obtain ⟨r, hr, enough, henough⟩ := hrefresh
      refine ⟨r, hr, enough, fun n hn => ?_⟩
      exact (memo_of_missed hmissed).trans ((if_neg hdepth).trans (henough n hn))

end Run

/-! ## Grammars whose rules are memoized -/

namespace Grammar

variable {G : Grammar S}

/-- The rule is defined as a parser that is memoized under one of the keys. -/
def MemoizedUnder (G : Grammar S) (keys : List Key) (rule : S.Rule) : Prop :=
  ∃ parity, ∃ key ∈ keys, ∃ body, G.define rule = some (.memo (S.kind rule) parity key body)

/-- The rule is defined as a memoized parser. -/
def Memoized (G : Grammar S) (rule : S.Rule) : Prop :=
  ∃ parity key body, G.define rule = some (.memo (S.kind rule) parity key body)

/-- Some function that the parser maps values with stops at the fault. -/
def Raises (G : Grammar S) (p : Parser S α) (fault : Fault) : Prop :=
  ∃ (β γ : Type) (f : β → Except Fault γ) (q : Parser S β) (b : β),
    G.Uses anyCopy p (.tryMap f q) ∧ f b = .error fault

/-- Finitely many memoized rules have finitely many keys. -/
theorem exists_keys {rules : List S.Rule} (h : ∀ rule ∈ rules, G.Memoized rule) :
    ∃ keys, ∀ rule ∈ rules, G.MemoizedUnder keys rule := by
  induction rules with
  | nil => exact ⟨[], fun _ hrule => nomatch hrule⟩
  | cons head rest ih =>
      obtain ⟨keys, hkeys⟩ := ih fun rule hrule => h rule (List.mem_cons_of_mem _ hrule)
      obtain ⟨parity, key, body, hdefine⟩ := h head List.mem_cons_self
      refine ⟨key :: keys, fun rule hrule => ?_⟩
      rcases List.mem_cons.1 hrule with rfl | hrule
      · exact ⟨parity, key, List.mem_cons_self, body, hdefine⟩
      · obtain ⟨parity, key, hkey, body, hdefine⟩ := hkeys rule hrule
        exact ⟨parity, key, List.mem_cons_of_mem _ hkey, body, hdefine⟩

variable [LawfulMemoTable T] {input : Input S.Token} {keys : List Key} {root : Parser S α}

/-- The induction is on the size first, for the bodies of rules, and on the parser within it. -/
theorem endsBelow (hoffered : G.Built Parser.Offered root) (hearly : G.Built Parser.Early root)
    (hmemo : ∀ rule, G.Uses anyCopy root (.ref rule : Parser S _) → G.MemoizedUnder keys rule)
    (hlength : input.tokens.length < 2 ^ 32 - 2) (bound : Nat ×ₗ Nat) {β : Type} {p : Parser S β}
    (hp : G.Uses anyCopy root p) :
    Run.EndsBelow (T := T) input keys (G.Raises root) bound fun n =>
      p.eval input n (G.call input n) := by
  induction bound using WellFoundedLT.induction generalizing β p with
  | ind bound ihBound =>
  -- Positions never go backward, so what follows a part has no larger size.
  have goes : ∀ {γ : Type} {q : Parser S γ}, G.Uses anyCopy root q → ∀ n,
      (q.eval input n (G.call input n) : Run S T γ).GoesOn input :=
    fun hq n => goesOn_run (hoffered.of_uses hq) (n + 1)
  induction p with
  | unit | fail | literal | token | find | all | eof | scan =>
      exact fun _ _ _ _ _ _ => Eval.ends_pure _
  | custom f => exact (hoffered _ hp).elim
  | count what p _ => exact (hoffered _ hp).elim
  | tryMap f p ih =>
      exact (ih (hp.part (.tryMap f p))).tryMap fun a fault h => ⟨_, _, f, p, a, hp, h⟩
  | zipWith f p q ihp ihq =>
      have hleft := hp.part (.zipWithLeft f p q)
      exact (ihp hleft).zipWith f (goes hleft) (ihq (hp.part (.zipWithRight f p q)))
  | bind p f ihp ihf =>
      have hfirst := hp.part (.bindFirst p f)
      exact (ihp hfirst).bind (goes hfirst) fun a => ihf a (hp.part (.bindNext p f a))
  | alt p q ihp ihq =>
      have hleft := hp.part (.altLeft p q)
      exact (ihp hleft).alt (goes hleft) (ihq (hp.part (.altRight p q)))
  | label name p ih => exact (ih (hp.part (.label name p))).label name
  | commit p ih => exact (ih (hp.part (.commit p))).commit
  | look p ih => exact (ih (hp.part (.look p))).look
  | row count part ih =>
      simp only [Parser.eval_row]
      exact Run.endsBelow_row
        (List.forall_mem_ofFn_iff.2 fun i => ih i (hp.part (.row count part i)))
        (List.forall_mem_ofFn_iff.2 fun i => goes (hp.part (.row count part i)))
  | many p ih =>
      have hpart := hp.part (.many p)
      exact (ih hpart).many (goes hpart)
  | memo kind parity key p ih =>
      intro pos ctx state hpos hstate hsize
      exact Run.ends_memo hlength kind parity key fun _ =>
        ih (hp.part (.memo kind parity key p)) hpos hstate (le_trans size_withDepth_le hsize)
  | ref rule =>
      intro pos ctx state hpos hstate hsize
      obtain ⟨parity, key, hkey, body, hdefine⟩ := hmemo rule hp
      have hbody : G.Uses anyCopy root body :=
        (hp.rule hdefine).part (.memo (S.kind rule) parity key body)
      -- The body of a rule runs one level deeper, and so at a smaller size.
      refine Eval.Ends.of_succ ?_
      simp only [Parser.eval, call_rule hdefine]
      refine Run.ends_memo hlength (S.kind rule) parity key fun hdepth => ?_
      have hlt : size input keys pos (ctx.withDepth key (ctx.depth key + 1)) < bound :=
        calc size input keys pos (ctx.withDepth key (ctx.depth key + 1))
            < size input keys pos ctx :=
              size_withDepth_lt hkey (Run.depth_le_of_le_depthBound hdepth)
          _ ≤ bound := hsize
      exact ihBound _ hlt hbody hpos hstate (le_refl _)
  | delay cell rule => exact (hearly _ hp).elim

/-- Parsing ends, whatever recursion the rules run into: with some fuel there is an outcome, unless
a function that the grammar maps values with stops at a fault of its own. -/
theorem run_ends {rules : List S.Rule} (hoffered : G.Built Parser.Offered root)
    (hearly : G.Built Parser.Early root)
    (hrules : ∀ rule, G.Uses anyCopy root (.ref rule : Parser S _) → rule ∈ rules)
    (hmemo : ∀ rule ∈ rules, G.Memoized rule) (hlength : input.tokens.length < 2 ^ 32 - 2)
    {pos : Nat} (hpos : input.Boundary pos) (ctx : Context) {state : State S T}
    (hstate : state.NoEntries) :
    ∃ fuel,
      (∃ o after, G.run input fuel root pos ctx state = .done o after) ∨
      (∃ fault after, G.Raises root fault ∧
        G.run input fuel root pos ctx state = .stopped fault after) := by
  obtain ⟨keys, hkeys⟩ := exists_keys hmemo
  have hends := endsBelow hoffered hearly (fun rule hrule => hkeys rule (hrules rule hrule))
    hlength (size input keys pos ctx) .itself hpos hstate.onward (le_refl _)
  obtain ⟨r, hr, enough, henough⟩ := hends
  refine ⟨enough + 1, ?_⟩
  have hrun : G.run input (enough + 1) root pos ctx state = r := henough enough (Nat.le_refl _)
  rw [hrun]
  cases r with
  | exhausted => exact hr.elim
  | stopped fault after => exact .inr ⟨fault, after, hr, rfl⟩
  | done o after => exact .inl ⟨o, after, rfl⟩

/-- Two rules that are left-recursive through each other end on a text that both take part in. -/
theorem run_ends_indirect :
    ∃ fuel,
      (∃ o after, (Samples.indirectGrammar .even (.id 0) (.id 1)).run (T := OrderedTable)
        (Input.ofText "dcdc") fuel (.ref (S := Samples.IndirectSignature) .s) 0 ∅ .new =
          .done o after) ∨
      (∃ fault after, (Samples.indirectGrammar .even (.id 0) (.id 1)).Raises
          (.ref (S := Samples.IndirectSignature) .s) fault ∧
        (Samples.indirectGrammar .even (.id 0) (.id 1)).run (T := OrderedTable)
          (Input.ofText "dcdc") fuel (.ref (S := Samples.IndirectSignature) .s) 0 ∅ .new =
          .stopped fault after) := by
  have hboth : (Samples.indirectGrammar .even (.id 0) (.id 1)).Built
      (fun p => p.Offered ∧ p.Early) (.ref (S := Samples.IndirectSignature) .s) := by
    have ok : True ∧ True := ⟨trivial, trivial⟩
    refine Built.of_all ok (fun rule body hdefine => ?_) ?_
    · cases rule with
      | s =>
          obtain rfl := Option.some.inj hdefine
          exact ⟨ok, ok, ⟨ok, ok, ok, ok, ok⟩, ok, ok⟩
      | t =>
          obtain rfl := Option.some.inj hdefine
          exact ⟨ok, ok, ⟨ok, ok, ok, ok, ok⟩, ok, ok⟩
    · intro rule workshop body hcopy
      cases hcopy
  have hrules : ∀ rule : Samples.IndirectRule, rule ∈ [Samples.IndirectRule.s, .t] := by
    intro rule
    cases rule <;> decide
  exact run_ends (fun _ q hq => (hboth q hq).1) (fun _ q hq => (hboth q hq).2)
    (fun rule _ => hrules rule) (fun rule _ => by cases rule <;> exact ⟨_, _, _, rfl⟩)
    (by decide) Input.boundary_zero ∅ State.noEntries_new

end Grammar

end LeftRec
