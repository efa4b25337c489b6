import LeftRec.Fault

/-!
# Evaluation — computations with fuel, faults and a state

Running a parser may use up the fuel it was given, may be stopped by a fault, and changes a state
either way.  Once the fuel is used up nothing more is known; after a fault the state is kept.
-/

namespace LeftRec

/-- What a computation came to. -/
inductive Result (σ α : Type)
  /-- The fuel was used up. -/
  | exhausted
  /-- A fault stopped the computation in the given state. -/
  | stopped (fault : Fault) (state : σ)
  /-- The computation finished with a value. -/
  | done (value : α) (state : σ)

/-- The state that was left, if it is known. -/
def Result.state? {σ α : Type} : Result σ α → Option σ
  | .exhausted => none
  | .stopped _ state => some state
  | .done _ state => some state

/-- A computation over states `σ`. -/
def Eval (σ α : Type) : Type :=
  σ → Result σ α

namespace Eval

variable {σ α β : Type}

protected def pure (a : α) : Eval σ α :=
  fun state => .done a state

protected def bind (x : Eval σ α) (f : α → Eval σ β) : Eval σ β :=
  fun state =>
    match x state with
    | .exhausted => .exhausted
    | .stopped fault next => .stopped fault next
    | .done a next => f a next

instance : Monad (Eval σ) where
  pure := Eval.pure
  bind := Eval.bind

instance : LawfulMonad (Eval σ) :=
  LawfulMonad.mk' _
    (fun x => by
      funext state
      show Eval.bind x Eval.pure state = x state
      unfold Eval.bind
      cases x state <;> rfl)
    (fun _ _ => rfl)
    (fun x f g => by
      funext state
      show Eval.bind (Eval.bind x f) g state = Eval.bind x (fun a => Eval.bind (f a) g) state
      unfold Eval.bind
      cases x state <;> rfl)

/-! ## Effects -/

/-- There is no fuel left. -/
def exhausted : Eval σ α :=
  fun _ => .exhausted

def fault (f : Fault) : Eval σ α :=
  fun state => .stopped f state

/-- Go on with a value, or stop at a fault. -/
def ofExcept : Except Fault α → Eval σ α
  | .ok a => Eval.pure a
  | .error f => fault f

/-- A part of the state. -/
def read (f : σ → α) : Eval σ α :=
  fun state => .done (f state) state

/-- Change the state. -/
def change (f : σ → σ) : Eval σ Unit :=
  fun state => .done () (f state)

/-! ## Equations -/

@[simp]
theorem pure_apply (a : α) (state : σ) : (pure a : Eval σ α) state = .done a state := rfl

theorem bind_apply (x : Eval σ α) (f : α → Eval σ β) (state : σ) :
    (x >>= f) state =
      match x state with
      | .exhausted => .exhausted
      | .stopped fault next => .stopped fault next
      | .done a next => f a next := rfl

@[simp]
theorem map_apply (f : α → β) (x : Eval σ α) (state : σ) :
    (f <$> x) state =
      match x state with
      | .exhausted => .exhausted
      | .stopped fault next => .stopped fault next
      | .done a next => .done (f a) next := rfl

@[simp]
theorem exhausted_apply (state : σ) : (exhausted : Eval σ α) state = .exhausted := rfl

@[simp]
theorem fault_apply (f : Fault) (state : σ) : (fault f : Eval σ α) state = .stopped f state := rfl

@[simp]
theorem read_apply (f : σ → α) (state : σ) : read f state = .done (f state) state := rfl

@[simp]
theorem change_apply (f : σ → σ) (state : σ) : change f state = .done () (f state) := rfl

end Eval

end LeftRec
