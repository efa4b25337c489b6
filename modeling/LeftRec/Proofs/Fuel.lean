import Mathlib.Data.List.OfFn
import LeftRec.Evaluate
import LeftRec.Proofs.Finished

/-!
# Fuel — more of it changes nothing that is known

A run that came to a result with some fuel comes to the same result with more.  So a grammar's runs
may be compared at different amounts of fuel, and "finishes with enough fuel" is one notion.
-/

namespace LeftRec

variable {S : Signature} {T : Type → Type}

/-! ## Results with less fuel -/

/-- The first result is unknown or the same. -/
def Result.Le {σ α : Type} (r s : Result σ α) : Prop :=
  r = .exhausted ∨ r = s

/-- The first computation knows no more than the second. -/
def Eval.Le {σ α : Type} (x y : Eval σ α) : Prop :=
  ∀ state, (x state).Le (y state)

namespace Eval

variable {σ α β : Type}

theorem Le.refl (x : Eval σ α) : x.Le x :=
  fun _ => .inr rfl

theorem exhausted_le (x : Eval σ α) : (exhausted : Eval σ α).Le x :=
  fun _ => .inl rfl

theorem Le.bind {x y : Eval σ α} {f g : α → Eval σ β} (hx : x.Le y) (hf : ∀ a, (f a).Le (g a)) :
    (x >>= f).Le (y >>= g) := by
  intro state
  rcases hx state with hx | hx
  · left
    rw [bind_apply, hx]
  · rw [bind_apply, bind_apply, hx]
    cases y state with
    | exhausted => exact .inl rfl
    | stopped fault next => exact .inr rfl
    | done a next => exact hf a next

theorem Le.map {x y : Eval σ α} (f : α → β) (hx : x.Le y) : (f <$> x).Le (f <$> y) := by
  rw [map_eq_pure_bind, map_eq_pure_bind]
  exact hx.bind fun _ => Le.refl _

theorem Le.done {x y : Eval σ α} (h : x.Le y) {state after : σ} {a : α}
    (hx : x state = .done a after) : y state = .done a after := by
  rcases h state with h | h
  · rw [hx] at h
    cases h
  · rw [← h, hx]

end Eval

namespace Run

variable {α β γ : Type}

/-- The first run knows no more than the second, wherever they start. -/
def Le (p q : Run S T α) : Prop :=
  ∀ pos ctx, (p pos ctx).Le (q pos ctx)

theorem Le.refl (p : Run S T α) : p.Le p :=
  fun _ _ => Eval.Le.refl _

/-! ## Combinators keep the order -/

variable {p p' : Run S T α} {q q' : Run S T β}

theorem tryMap_le (f : α → Except Fault β) (hp : p.Le p') : (tryMap f p).Le (tryMap f p') :=
  fun pos ctx => (hp pos ctx).bind fun _ => Eval.Le.refl _

theorem bind_le {f f' : α → Run S T β} (hp : p.Le p') (hf : ∀ a, (f a).Le (f' a)) :
    (bind p f).Le (bind p' f') := by
  intro pos ctx
  refine (hp pos ctx).bind fun first => ?_
  cases first with
  | failure e => exact Eval.Le.refl _
  | success s => exact (hf s.value _ _).bind fun _ => Eval.Le.refl _

theorem zipWith_le (f : α → β → γ) (hp : p.Le p') (hq : q.Le q') :
    (zipWith f p q).Le (zipWith f p' q') := by
  intro pos ctx
  refine (hp pos ctx).bind fun first => ?_
  cases first with
  | failure e => exact Eval.Le.refl _
  | success s => exact (hq _ _).bind fun _ => Eval.Le.refl _

theorem rowFrom_le {ι : Type 1} {f g : ι → Run S T α} {parts : List ι}
    (h : ∀ i ∈ parts, (f i).Le (g i)) (start : Nat) (ctx : Context) (pos : Nat) (used : Used) :
    (rowFrom start ctx (parts.map f) pos used).Le (rowFrom start ctx (parts.map g) pos used) := by
  induction parts generalizing pos used with
  | nil => exact Eval.Le.refl _
  | cons i rest ih =>
      refine (h i List.mem_cons_self _ _).bind fun first => ?_
      cases first.after start used with
      | failure e => exact Eval.Le.refl _
      | success s =>
          exact Eval.Le.map _ (ih (fun j hj => h j (List.mem_cons_of_mem _ hj)) _ _)

theorem row_le {ι : Type 1} {f g : ι → Run S T α} {parts : List ι}
    (h : ∀ i ∈ parts, (f i).Le (g i)) : (row (parts.map f)).Le (row (parts.map g)) := by
  cases parts with
  | nil => exact Le.refl _
  | cons i rest =>
      intro pos ctx
      refine (h i List.mem_cons_self pos ctx).bind fun first => ?_
      cases first with
      | failure e => exact Eval.Le.refl _
      | success s =>
          exact Eval.Le.map _ (rowFrom_le (fun j hj => h j (List.mem_cons_of_mem _ hj)) _ _ _ _)

theorem alt_le {r r' : Run S T α} (hp : p.Le p') (hr : r.Le r') : (alt p r).Le (alt p' r') := by
  intro pos ctx
  refine (hp pos ctx).bind fun first => ?_
  cases first with
  | success s => exact Eval.Le.refl _
  | failure e =>
      dsimp only
      split
      · exact Eval.Le.refl _
      · exact (hr pos ctx).bind fun _ => Eval.Le.refl _

theorem label_le (name : String) (hp : p.Le p') : (label name p).Le (label name p') :=
  fun pos ctx => (hp pos ctx).bind fun _ => Eval.Le.refl _

theorem commit_le (hp : p.Le p') : (commit p).Le (commit p') :=
  fun pos ctx => (hp pos ctx).bind fun _ => Eval.Le.refl _

theorem look_le (hp : p.Le p') : (look p).Le (look p') :=
  fun pos ctx => (hp pos ctx).bind fun _ => Eval.Le.refl _

theorem count_le (what : String) (hp : p.Le p') : (count what p).Le (count what p') :=
  fun pos ctx => (Eval.Le.refl _).bind fun _ => hp pos ctx

theorem manyFrom_le (hp : p.Le p') {rounds rounds' : Nat} (hrounds : rounds ≤ rounds')
    (pos : Nat) : (manyFrom p rounds pos).Le (manyFrom p' rounds' pos) := by
  induction rounds generalizing rounds' pos with
  | zero => exact Eval.exhausted_le _
  | succ rounds ih =>
      -- More rounds than one means at least one, and the others are compared by induction.
      obtain ⟨more, rfl⟩ : ∃ more, rounds' = more + 1 := ⟨rounds' - 1, by omega⟩
      refine (hp pos ∅).bind fun first => ?_
      cases first with
      | failure e => exact Eval.Le.refl _
      | success s =>
          dsimp only
          split
          · exact Eval.Le.refl _
          · exact Eval.Le.map _ (ih (Nat.le_of_succ_le_succ hrounds) _)

theorem many_le (hp : p.Le p') {rounds rounds' : Nat} (hrounds : rounds ≤ rounds') :
    (many rounds p).Le (many rounds' p') := by
  intro pos ctx
  refine (hp pos ctx).bind fun first => ?_
  cases first with
  | failure e => exact Eval.Le.refl _
  | success s =>
      dsimp only
      split
      · exact Eval.Le.refl _
      · exact Eval.Le.map _ (manyFrom_le hp hrounds _)

theorem memo_le [MemoTable T] (input : Input S.Token) (kind : S.Kind) (parity : Parity)
    (key : Key) {body body' : Run S T (S.Value kind)} (hbody : body.Le body') :
    (memo input kind parity key body).Le (memo input kind parity key body') := by
  intro pos ctx
  refine (Eval.Le.refl _).bind fun stored => ?_
  dsimp only
  split
  · exact Eval.Le.refl _
  · split
    · exact Eval.Le.refl _
    · exact (Eval.Le.refl _).bind fun deeper => (hbody pos deeper).bind fun _ => Eval.Le.refl _

end Run

/-! ## Parsers and grammars -/

variable [MemoTable T] {input : Input S.Token} {α : Type}

/-- The parts of a row as a list. -/
theorem Parser.eval_row (input : Input S.Token) (rounds : Nat) (call : Caller S T) (count : Nat)
    (part : Fin count → Parser S α) :
    (Parser.row count part).eval input rounds call =
      Run.row ((List.ofFn part).map fun p => p.eval input rounds call) := by
  rw [List.map_ofFn]
  rfl

theorem Parser.eval_le {rounds rounds' : Nat} (hrounds : rounds ≤ rounds')
    {call call' : Caller S T} (hcall : ∀ rule cell, (call rule cell).Le (call' rule cell))
    (p : Parser S α) : (p.eval input rounds call).Le (p.eval input rounds' call') := by
  induction p with
  | unit | fail | literal | token | find | all | eof | scan | custom => exact Run.Le.refl _
  | count what p ih => exact Run.count_le what ih
  | tryMap f p ih => exact Run.tryMap_le f ih
  | zipWith f p q ihp ihq => exact Run.zipWith_le f ihp ihq
  | bind p f ihp ihf => exact Run.bind_le ihp ihf
  | alt p q ihp ihq => exact Run.alt_le ihp ihq
  | label name p ih => exact Run.label_le name ih
  | commit p ih => exact Run.commit_le ih
  | look p ih => exact Run.look_le ih
  | row count part ih =>
      rw [Parser.eval_row, Parser.eval_row]
      exact Run.row_le (List.forall_mem_ofFn_iff.2 ih)
  | many p ih => exact Run.many_le ih hrounds
  | memo kind parity key p ih => exact Run.memo_le input kind parity key ih
  | ref rule => exact hcall rule none
  | delay cell rule => exact hcall rule (some cell)

namespace Grammar

variable {G : Grammar S} {fuel : Nat}

/-- How the parsers of a grammar call rules, with so much fuel. -/
def call (G : Grammar S) (input : Input S.Token) (fuel : Nat) : Caller S T :=
  fun rule cell pos ctx =>
    match cell with
    | none =>
        match G.define rule with
        | none => Eval.fault .undefinedRule
        | some body => G.run input fuel body pos ctx
    | some cell => fun state =>
        match G.fill rule cell state with
        | (.error fault, next) => .stopped fault next
        | (.ok body, next) => G.run input fuel body pos ctx next

theorem run_succ (p : Parser S α) :
    (G.run input (fuel + 1) p : Run S T α) = p.eval input fuel (G.call input fuel) := rfl

theorem call_rule {rule : S.Rule} {body : Parser S (S.Value (S.kind rule))}
    (h : G.define rule = some body) :
    (G.call input fuel rule none : Run S T _) = G.run input fuel body := by
  funext pos ctx
  simp only [call, h]

section Calls

variable {rule : S.Rule} {cell : Nat} {pos : Nat} {ctx : Context} {state after : State S T}
variable {o : Outcome (S.Value (S.kind rule))}

theorem call_rule_eq_done :
    G.call input fuel rule none pos ctx state = .done o after ↔
      ∃ body, G.define rule = some body ∧ G.run input fuel body pos ctx state = .done o after := by
  simp only [call]
  cases G.define rule with
  | none => simp
  | some body => simp

theorem call_copy_eq_done :
    G.call input fuel rule (some cell) pos ctx state = .done o after ↔
      ∃ body next, G.fill rule cell state = (.ok body, next) ∧
        G.run input fuel body pos ctx next = .done o after := by
  simp only [call]
  rcases G.fill rule cell state with ⟨_ | body, next⟩
  · simp
  · constructor
    · intro h
      exact ⟨body, next, rfl, h⟩
    · rintro ⟨_, _, ⟨⟩, h⟩
      exact h

omit [MemoTable T] in
/-- Filling a cell gives a copy of its rule and leaves the table alone. -/
theorem fill_eq_ok {body : Parser S (S.Value (S.kind rule))} {next : State S T}
    (h : G.fill rule cell state = (.ok body, next)) :
    (∃ workshop, (G.copy rule workshop).1 = .ok body) ∧ next.memo = state.memo := by
  simp only [fill] at h
  split at h
  next supply _ =>
    obtain ⟨hbody, rfl⟩ := Prod.mk.inj h
    exact ⟨⟨{ supply, log := [] }, hbody⟩, rfl⟩
  next =>
    split at h
    next p workshop hcopy =>
      obtain ⟨hbody, rfl⟩ := Prod.mk.inj h
      exact ⟨⟨state.workshop, by rw [hcopy, hbody]⟩, rfl⟩
    next => cases h

end Calls

theorem call_le {fuel more : Nat}
    (h : ∀ {α : Type} (p : Parser S α),
      (G.run input fuel p : Run S T α).Le (G.run input more p)) (rule : S.Rule)
    (cell : Option Nat) :
    (G.call input fuel rule cell : Run S T _).Le (G.call input more rule cell) := by
  intro pos ctx
  cases cell with
  | none =>
      simp only [call]
      split
      · exact Eval.Le.refl _
      · exact h _ pos ctx
  | some cell =>
      intro state
      simp only [call]
      split
      · exact .inr rfl
      · exact h _ pos ctx _

theorem run_le {fuel more : Nat} (hfuel : fuel ≤ more) (p : Parser S α) :
    (G.run input fuel p : Run S T α).Le (G.run input more p) := by
  induction fuel generalizing α more with
  | zero => exact fun _ _ => Eval.exhausted_le _
  | succ fuel ih =>
      obtain ⟨more, rfl⟩ : ∃ n, more = n + 1 := ⟨more - 1, by omega⟩
      have hle : fuel ≤ more := Nat.le_of_succ_le_succ hfuel
      rw [run_succ, run_succ]
      exact Parser.eval_le hle (call_le fun p => ih hle p) p

/-- Two finished runs from one start differ in nothing, whatever their fuel. -/
theorem run_done_unique {fuel fuel' : Nat} {p : Parser S α} {pos : Nat} {ctx : Context}
    {state after after' : State S T} {o o' : Outcome α}
    (h : G.run input fuel p pos ctx state = .done o after)
    (h' : G.run input fuel' p pos ctx state = .done o' after') : o = o' ∧ after = after' := by
  -- Both are compared with the run that has the larger of the two amounts of fuel.
  have hmore := (run_le (Nat.le_max_left fuel fuel') p pos ctx).done h
  have hmore' := (run_le (Nat.le_max_right fuel fuel') p pos ctx).done h'
  rw [hmore] at hmore'
  exact Result.done.inj hmore'

end Grammar

end LeftRec
