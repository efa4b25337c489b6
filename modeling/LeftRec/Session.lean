import LeftRec.Evaluate

/-!
# Sessions — parses over one memo table

A session keeps an input, whether a parse must consume all of it, and the state that its parses
share.  A whole parse begins with an empty table and leaves its entries behind; running a parser at
some position uses the table as it is.
-/

namespace LeftRec

universe u

variable {S : Signature} {T : Type → Type} {α : Type}

/-! ## Whole parses -/

/-- How a whole parse ended. -/
def Outcome.event (extent entries : Nat) : Outcome α → Event
  | .success s => .succeeded s.pos extent entries
  | .failure f => .failed f.pos extent entries f.reason.text

/-- Parse an input from its start with an empty table, with so much fuel. -/
def Grammar.parse [MemoTable T] (G : Grammar S) (fuel : Nat) (input : Input S.Token)
    (consumeAll : Bool) (p : Parser S α) : Eval (State S T) (Outcome α) := do
  Eval.change State.clear
  let outcome ← G.run input fuel (if consumeAll then p.complete else p) 0 ∅
  Eval.change fun state => state.note (outcome.event input.extent (MemoTable.size state.memo))
  pure outcome

/-- Parse an input with the rules and the start of a language. -/
def Language.parse [MemoTable T] (L : Language S α) (input : Input S.Token) (consumeAll : Bool) :
    Eval (State S T) (Outcome α) :=
  L.grammar.parse Grammar.ampleFuel input consumeAll L.start

/-! ## Building within a state -/

/-- Build something with the workshop of the state, and go on with it. -/
def Eval.building {β : Type} {γ : Type u} (make : Build γ) (next : γ → Eval (State S T) β) :
    Eval (State S T) β := fun state =>
  match make state.workshop with
  | (.ok made, workshop) => next made { state with workshop }
  | (.error fault, workshop) => .stopped fault { state with workshop }

/-! ## Sessions -/

/-- An input, the demand to consume all of it, and the shared state. -/
structure Session (S : Signature) (T : Type → Type) where
  input : Input S.Token
  consumeAll : Bool
  state : State S T

/-- What one may do in a session, with parsers that are described by a `π` and built when their
step is taken. -/
inductive Session.Step (S : Signature) (π : Type)
  | consumeAll (flag : Bool)
  | input (input : Input S.Token)
  /-- A whole parse. -/
  | run (p : π)
  /-- Run a parser on the table as it is. -/
  | runAt (p : π) (pos : Nat) (ctx : Context)
  | store (key : Key) (pos : Nat) (entry : Entry S)
  | entry (key : Key) (pos : Nat)
  /-- A report on an entry. -/
  | describeEntry (key : Key) (pos : Nat)
  /-- A report on the state. -/
  | describe
  | isEmpty
  | dump
  | clear

/-- What a step answers. -/
inductive Session.Answer (S : Signature) (α : Type)
  | nothing
  | flag (b : Bool)
  | extent (n : Nat)
  | outcome (o : Outcome α)
  | entry (e : Option (Entry S))
  | entries (es : List (Slot × Entry S))
  | report (text : Option String)
  | summary (text : String) (extent : Nat)

namespace Session

/-- A report on an entry, whose outcome is not shown. -/
def describeEntry (entry : Entry S) : String :=
  let depths := entry.context.depths.map fun (key, depth) =>
    "(" ++ key.describe ++ ", " ++ toString depth ++ ")"
  "MemoEntry \x7b outcome: \"<erased>\", context: LeftRecContext \x7b depths: [" ++
    ", ".intercalate depths ++ "] \x7d \x7d"

/-- A report on the state of parses. -/
def describeSize (entries : Nat) : String :=
  "ParseState \x7b memo_len: " ++ toString entries ++ ", .. \x7d"

variable [MemoTable T]

/-- Do something with the state of a session. -/
def onState {β : Type} (x : Eval (State S T) β) : Eval (Session S T) β := fun session =>
  match x session.state with
  | .exhausted => .exhausted
  | .stopped fault state => .stopped fault { session with state }
  | .done b state => .done b { session with state }

def memo (session : Session S T) : T (Entry S) :=
  session.state.memo

/-- Take one step with the rules of a grammar, with so much fuel. -/
def perform {π : Type} (G : Grammar S) (fuel : Nat) (make : π → Build (Parser S α)) :
    Step S π → Eval (Session S T) (Answer S α)
  | .consumeAll flag => do
      Eval.change fun session => { session with consumeAll := flag }
      pure (.flag flag)
  | .input input => do
      Eval.change fun session => { session with input }
      pure (.extent input.extent)
  | .run p => do
      let input ← Eval.read (·.input)
      let consumeAll ← Eval.read (·.consumeAll)
      .outcome <$> onState (Eval.building (make p) (G.parse fuel input consumeAll))
  | .runAt p pos ctx => do
      let input ← Eval.read (·.input)
      .outcome <$> onState (Eval.building (make p) fun p => G.run input fuel p pos ctx)
  | .store key pos entry => do
      onState (Eval.change (·.store key pos entry))
      pure .nothing
  | .entry key pos => Eval.read fun session => .entry (MemoTable.get? session.memo (key, pos))
  | .describeEntry key pos => Eval.read fun session =>
      .report ((MemoTable.get? session.memo (key, pos)).map describeEntry)
  | .describe => Eval.read fun session =>
      .summary (describeSize (MemoTable.size session.memo)) session.input.extent
  | .isEmpty => Eval.read fun session => .flag (MemoTable.size session.memo == 0)
  | .dump => Eval.read fun session => .entries (MemoTable.toList session.memo)
  | .clear => do
      onState (Eval.change State.clear)
      pure .nothing

/-- The results of some steps, each taken where the one before it left the session, even if that
one was stopped. -/
def performAll {π : Type} (G : Grammar S) (fuel : Nat) (make : π → Build (Parser S α)) :
    List (Step S π) → Session S T → List (Result (Session S T) (Answer S α))
  | [], _ => []
  | step :: rest, session =>
      let result := perform G fuel make step session
      result :: performAll G fuel make rest (result.state?.getD session)

end Session

end LeftRec
