import LeftRec.Input
import LeftRec.Parser
import LeftRec.State

/-!
# Runs — what combinators do

A run takes a position and the context there, and computes an outcome.  Each combinator of parsers
is an operation on runs.  Two rules recur: a part that follows another gets the same context if the
other consumed nothing and an empty one otherwise, and a sequence keeps the used sets of both parts
only if it consumed nothing as a whole.
-/

namespace LeftRec

/-- What a parser does at a position under a context. -/
abbrev Run (S : Signature) (T : Type → Type) (α : Type) : Type :=
  Nat → Context → Eval (State S T) (Outcome α)

namespace Run

variable {S : Signature} {T : Type → Type} {α β γ : Type}

/-! ## Terminals -/

/-- Succeed with the item found at a position and the position after it. -/
def found (name : String) (pos : Nat) : Option (α × Nat) → Outcome α
  | some (value, after) => .yield value after
  | none => .fail (.expecting name) pos

def literal (input : Input S.Token) (tokens : List S.Token) (name : String) :
    Run S T (List S.Token) := fun pos _ =>
  let there := input.startsWith pos tokens
  pure (found name pos (if there then some (tokens, pos + Input.span input.width tokens) else none))

def token (input : Input S.Token) (test : S.Token → Bool) (name : String) : Run S T S.Token :=
  fun pos _ => pure (found name pos ((input.next? pos).filter fun (t, _) => test t))

/-- The first of some tokens that satisfies the test, and the position after it. -/
def firstToken (width : S.Token → Nat) (test : S.Token → Bool) :
    Nat → List S.Token → Option (S.Token × Nat)
  | _, [] => none
  | pos, t :: rest =>
      let after := pos + width t
      if test t then some (t, after) else firstToken width test after rest

def find (input : Input S.Token) (test : S.Token → Bool) (name : String) : Run S T S.Token :=
  fun pos _ => pure (found name pos (firstToken input.width test pos (input.rest pos)))

def all (input : Input S.Token) : Run S T (List S.Token) := fun pos _ =>
  pure (.yield (input.slice pos input.extent) (max input.extent pos))

def eof (input : Input S.Token) : Run S T Unit := fun pos _ =>
  pure (found "EOF" pos (if input.extent ≤ pos then some ((), pos) else none))

def scan (input : Input S.Token) (f : List S.Token → Option (Nat × α)) (name : String) :
    Run S T α := fun pos _ =>
  let rest := input.rest pos
  pure (found name pos ((f rest).map fun (count, value) =>
    (value, pos + Input.span input.width (rest.take count))))

/-! ## Parsers written by hand -/

/-- Answer a program from the table of the state. -/
def access [MemoTable T] : Access S α → Eval (State S T) α
  | .done result => Eval.ofExcept result
  | .entry key pos next => fun state =>
      access (next (MemoTable.get? state.memo (key, pos))) state
  | .insert key pos entry next => fun state => access next (state.store key pos entry)
  | .clear next => fun state => access next state.clear
  | .len next => fun state => access (next (MemoTable.size state.memo)) state

def custom [MemoTable T] (input : Input S.Token)
    (f : Input S.Token → Nat → Context → Access S (Outcome α)) : Run S T α := fun pos ctx =>
  access (f input pos ctx)

/-! ## Sequences -/

def tryMap (f : α → Except Fault β) (p : Run S T α) : Run S T β := fun pos ctx => do
  match ← p pos ctx with
  | .failure e => pure (.failure e)
  | .success s => (fun value => .success { s with value }) <$> Eval.ofExcept (f s.value)

def bind (p : Run S T α) (f : α → Run S T β) : Run S T β := fun pos ctx => do
  match ← p pos ctx with
  | .failure e => pure (.failure e)
  | .success s =>
      let second ← f s.value s.pos (ctx.carried pos s.pos)
      pure (second.after pos s.used)

def zipWith (f : α → β → γ) (p : Run S T α) (q : Run S T β) : Run S T γ := fun pos ctx => do
  match ← p pos ctx with
  | .failure e => pure (.failure e)
  | .success s =>
      let second ← q s.pos (ctx.carried pos s.pos)
      pure ((second.map (f s.value)).after pos s.used)

/-- The parts of a row that follow its first one.  The row began at `start` under `ctx`, and has
come to `pos` with the used set `used`. -/
def rowFrom (start : Nat) (ctx : Context) :
    List (Run S T α) → Nat → Used → Eval (State S T) (Outcome (List α))
  | [], pos, used => pure (.success { value := [], pos, used })
  | p :: rest, pos, used => do
      match (← p pos (ctx.carried start pos)).after start used with
      | .failure e => pure (.failure e)
      | .success s => (·.map (s.value :: ·)) <$> rowFrom start ctx rest s.pos s.used

/-- Some parts one after the other. -/
def row : List (Run S T α) → Run S T (List α)
  | [], pos, _ => pure (.yield [] pos)
  | p :: rest, pos, ctx => do
      match ← p pos ctx with
      | .failure e => pure (.failure e)
      | .success s => (·.map (s.value :: ·)) <$> rowFrom pos ctx rest s.pos s.used

/-! ## Choice -/

def alt (p q : Run S T α) : Run S T α := fun pos ctx => do
  match ← p pos ctx with
  | .success s => pure (.success s)
  | .failure first =>
      if first.isFatal then pure (.failure first)
      else
        match ← q pos ctx with
        | .success s => pure (.success { s with used := first.used.union s.used })
        | .failure second => pure (.failure (first.merge second))

def label (name : String) (p : Run S T α) : Run S T α := fun pos ctx => do
  let rename (e : Failure) : Failure :=
    if e.isFatal || e.pos ≠ pos then e else { e with reason := .expecting name }
  pure ((← p pos ctx).mapFailure rename)

def commit (p : Run S T α) : Run S T α := fun pos ctx => do
  pure ((← p pos ctx).mapFailure fun e => { e with reason := e.reason.toFatal })

def look (p : Run S T α) : Run S T Bool := fun pos ctx => do
  let outcome ← p pos ctx
  pure (.success { value := outcome.isSuccess, pos, used := outcome.used })

/-! ## Repetition -/

/-- The repetitions from a position on, in at most `rounds` rounds.  They follow one that consumed
something, so their contexts are empty and their used sets do not matter. -/
def manyFrom (p : Run S T α) : Nat → Nat → Eval (State S T) (Outcome (List α))
  | 0, _ => Eval.exhausted
  | rounds + 1, pos => do
      match ← p pos ∅ with
      | .failure e => pure (if e.isFatal then .failure e else .yield [] pos)
      | .success s =>
          if s.pos = pos then pure (.yield [s.value] pos)
          else (·.map (s.value :: ·)) <$> manyFrom p rounds s.pos

def many (rounds : Nat) (p : Run S T α) : Run S T (List α) := fun pos ctx => do
  match ← p pos ctx with
  | .failure e =>
      pure (if e.isFatal then .failure e else .success { value := [], pos, used := e.used })
  | .success s =>
      if s.pos = pos then pure (.success { value := [s.value], pos, used := s.used })
      else (fun rest => (rest.map (s.value :: ·)).withUsed s.used) <$> manyFrom p rounds s.pos

/-! ## Counting -/

def count (label : String) (p : Run S T α) : Run S T α := fun pos ctx => do
  Eval.change (·.count label)
  p pos ctx

end Run

end LeftRec
