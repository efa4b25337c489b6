import LeftRec.Proofs.Visits

/-!
# Sequences — a row is a left-nested chain

A row keeps in mind where it began, under which context, and what was used so far.  A chain of
parsers that is nested to the left has the same in mind at every link, for what a link runs first is
all of the chain before it, which began where the row did.  So a row may be taken apart into steps
that bind or pair two parsers each.
-/

namespace LeftRec

variable {S : Signature} {T : Type → Type} {α β γ : Type}

/-! ## Left-nested chains -/

namespace Parser

/-- Some parsers one after the other, each bound to the values of those before it. -/
def boundChain : List (Parser S α) → Parser S (List α)
  | [] => unit []
  | p :: rest =>
      rest.foldl (fun before q => before.bind fun values => q.map fun value => values ++ [value])
        (p.map fun value => [value])

/-- Pair a parser with some others in turn, nested to the left, and list the values in the end. -/
def pairedAfter : {β : Type} → (β → List α) → Parser S β → List (Parser S α) → Parser S (List α)
  | _, list, before, [] => before.map list
  | _, list, before, q :: rest =>
      pairedAfter (fun pair => list pair.1 ++ [pair.2]) (before.seq q) rest

/-- Some parsers one after the other, paired to the left. -/
def pairedChain : List (Parser S α) → Parser S (List α)
  | [] => unit []
  | p :: rest => pairedAfter (fun value => [value]) p rest

end Parser

/-! ## What is left of a row -/

namespace Run

/-- The first part of a row, whatever its value lists, and then the parts that are left. -/
def rowAfter (list : β → List α) (before : Run S T β) (rest : List (Run S T α)) :
    Run S T (List α) := fun pos ctx => do
  match ← before pos ctx with
  | .failure e => pure (.failure e)
  | .success s => (·.map (list s.value ++ ·)) <$> rowFrom pos ctx rest s.pos s.used

theorem row_cons (p : Run S T α) (rest : List (Run S T α)) :
    row (p :: rest) = rowAfter (fun value => [value]) p rest := rfl

/-- It is the same to list the values of the first part later or at once. -/
theorem rowAfter_tryMap (list : γ → List α) (f : β → γ) (before : Run S T β)
    (rest : List (Run S T α)) :
    rowAfter list (tryMap (fun b => .ok (f b)) before) rest =
      rowAfter (fun b => list (f b)) before rest := by
  funext pos ctx
  simp only [rowAfter, tryMap, bind_assoc]
  refine congrArg _ (funext fun first => ?_)
  cases first <;> rfl

/-- With no part left, the values are those of the first part. -/
theorem rowAfter_nil (before : Run S T (List α)) :
    rowAfter (fun values => values) before [] = before := by
  funext pos ctx
  rw [← bind_pure (before pos ctx)]
  refine congrArg _ (funext fun first => ?_)
  cases first with
  | failure e => rfl
  | success s =>
      have happend : (⟨s.value ++ [], s.pos, s.used⟩ : Success (List α)) = s := by
        rw [List.append_nil]
      exact congrArg (fun s' => (pure (Outcome.success s') : Eval (State S T) _)) happend

/-- One more part may be run together with those before it. -/
theorem rowAfter_cons {list : β → List α} {list' : γ → List α} {join : β → α → γ}
    (hlist : ∀ b a, list' (join b a) = list b ++ [a]) (before : Run S T β) (q : Run S T α)
    (rest : List (Run S T α)) :
    rowAfter list before (q :: rest) = rowAfter list' (zipWith join before q) rest := by
  funext pos ctx
  unfold rowAfter zipWith
  rw [bind_assoc]
  refine congrArg _ (funext fun first => ?_)
  cases first with
  | failure e => rfl
  | success s =>
      simp only [rowFrom, bind_assoc, pure_bind, map_bind]
      refine congrArg _ (funext fun second => ?_)
      -- Either way the second part is judged from where the row began.
      cases second with
      | failure e => rfl
      | success s' =>
          simp only [Outcome.after, Outcome.map, Outcome.withUsed, Outcome.pos, Outcome.used,
            Functor.map_map]
          refine congrArg (· <$> _) (funext fun others => ?_)
          cases others with
          | failure e => rfl
          | success s'' => simp [hlist]

/-- Binding a parser whose values only are transformed is combining both values. -/
theorem bind_tryMap_ok (f : α → β → γ) (p : Run S T α) (q : Run S T β) :
    bind p (fun a => tryMap (fun b => .ok (f a b)) q) = zipWith f p q := by
  funext pos ctx
  refine congrArg _ (funext fun first => ?_)
  cases first with
  | failure e => rfl
  | success s =>
      simp only [tryMap, bind_assoc]
      refine congrArg _ (funext fun second => ?_)
      cases second <;> rfl

end Run

/-! ## Rows and chains -/

namespace Grammar

variable [MemoTable T] {G : Grammar S} {input : Input S.Token} {fuel : Nat}

theorem run_foldl_bind (before : Parser S (List α)) (rest : List (Parser S α)) :
    (G.run input fuel (rest.foldl (fun before q =>
        before.bind fun values => q.map fun value => values ++ [value]) before) : Run S T _) =
      Run.rowAfter (fun values => values) (G.run input fuel before)
        (rest.map fun p => G.run input fuel p) := by
  induction rest generalizing before with
  | nil => exact (Run.rowAfter_nil _).symm
  | cons q rest ih =>
      have hlink : (G.run input fuel
          (before.bind fun values => q.map fun value => values ++ [value]) : Run S T _) =
            Run.zipWith (fun values value => values ++ [value]) (G.run input fuel before)
              (G.run input fuel q) := by
        simp only [run_bind, Parser.map, run_tryMap]
        exact Run.bind_tryMap_ok _ _ _
      rw [List.foldl_cons, ih, hlink, List.map_cons]
      refine (Run.rowAfter_cons ?_ _ _ _).symm
      exact fun _ _ => rfl

theorem run_pairedAfter (list : β → List α) (before : Parser S β) (rest : List (Parser S α)) :
    (G.run input fuel (Parser.pairedAfter list before rest) : Run S T _) =
      Run.rowAfter list (G.run input fuel before) (rest.map fun p => G.run input fuel p) := by
  induction rest generalizing β with
  | nil =>
      have hmap : (G.run input fuel (before.map list) : Run S T _) =
          Run.tryMap (fun b => .ok (list b)) (G.run input fuel before) := run_tryMap _
      rw [Parser.pairedAfter, hmap, ← Run.rowAfter_nil (Run.tryMap _ _), Run.rowAfter_tryMap]
      rfl
  | cons q rest ih =>
      have hlink : (G.run input fuel (before.seq q) : Run S T _) =
          Run.zipWith Prod.mk (G.run input fuel before) (G.run input fuel q) := run_zipWith _
      rw [Parser.pairedAfter, ih, hlink, List.map_cons]
      refine (Run.rowAfter_cons ?_ _ _ _).symm
      exact fun _ _ => rfl

theorem run_sequence (ps : List (Parser S α)) :
    (G.run input (fuel + 1) (.sequence ps) : Run S T (List α)) =
      Run.row (ps.map fun p => G.run input (fuel + 1) p) := by
  rw [Parser.sequence, run_row]
  simp

/-- A row of parsers is the chain that binds each to the values of those before it, and the chain
that pairs them to the left.  It comes to the same everywhere, under every context and from every
state: the same values or failure, position, used set or fault, and the same state after it.  A row
of no parsers yields no values. -/
theorem sequence_is_chain (ps : List (Parser S α)) (fuel : Nat) :
    (G.run input fuel (.sequence ps) : Run S T (List α)) = G.run input fuel (.boundChain ps) ∧
    (G.run input fuel (.sequence ps) : Run S T (List α)) = G.run input fuel (.pairedChain ps) ∧
    (G.run input fuel (.sequence []) : Run S T (List α)) = G.run input fuel (.unit []) := by
  cases fuel with
  | zero => exact ⟨rfl, rfl, rfl⟩
  | succ fuel =>
      have hnone : (G.run input (fuel + 1) (.sequence []) : Run S T (List α)) =
          G.run input (fuel + 1) (.unit []) := run_sequence []
      cases ps with
      | nil => exact ⟨hnone, hnone, hnone⟩
      | cons p rest =>
          rw [run_sequence, List.map_cons, Run.row_cons]
          refine ⟨?_, ?_, hnone⟩
          · rw [Parser.boundChain, run_foldl_bind, Parser.map, run_tryMap, Run.rowAfter_tryMap]
          · rw [Parser.pairedChain, run_pairedAfter]

end Grammar

end LeftRec
