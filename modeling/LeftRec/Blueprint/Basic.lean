import LeftRec.Blueprint.Datum
import LeftRec.Pattern

/-!
# Blueprints — grammars described by data

A blueprint is a plain description of a parser over data.  Building one makes its parts in the
order in which they are written and then the parser itself, so the keys of memoized parsers are
handed out from the inside to the outside.
-/

namespace LeftRec

/-! ## Media -/

/-- How tokens of a kind of input are seen as data. -/
class Medium (τ : Type) where
  datum : τ → Datum
  /-- A part of the input as one value. -/
  whole : List τ → Datum
  /-- The tokens that a value stands for. -/
  tokens : Datum → List τ
  /-- The characters that patterns see. -/
  chars : List τ → List Char

/-- In text, tokens are characters, and a part of it is text again. -/
instance : Medium Char where
  datum c := .text c.toString
  whole cs := .text (String.ofList cs)
  tokens d := d.flatText.toList
  chars cs := cs

/-- A token of input that was cut into tokens before. -/
abbrev Lexeme := Int ⊕ String

def Datum.ofLexeme : Lexeme → Datum
  | .inl n => .int n
  | .inr s => .text s

/-- In a list of tokens, a part of it is a list again. -/
instance : Medium Lexeme where
  datum := Datum.ofLexeme
  whole ts := .list (ts.map Datum.ofLexeme)
  tokens d := d.leaves
  chars _ := []

/-! ## Descriptions -/

/-- The kinds of values that described grammars store in the memo table. -/
inductive Blueprint.Kind
  | plain
  | boxed
  | unit
  deriving DecidableEq

/-- A value of another type than the plain one. -/
structure Blueprint.Boxed where
  content : Datum

mutual

/-- The description of a parser. -/
inductive Blueprint (τ : Type)
  | literal (tokens : List τ) (name : String)
  | token (test : Test) (name : String)
  | find (test : Test) (name : String)
  | pattern (source name : String)
  | any
  | all
  | eof
  | fail (reason : Reason)
  | look (p : Blueprint τ)
  | unit (value : Datum)
  | map (f : Transform) (p : Blueprint τ)
  | yielding (value : Datum) (p : Blueprint τ)
  | bind (p : Blueprint τ) (next : Continuation τ)
  /-- The first yields a function for the value of the second. -/
  | app (p q : Blueprint τ)
  /-- The second yields a function for the value of the first. -/
  | ap (p q : Blueprint τ)
  | seq (p q : Blueprint τ)
  | skip (p q : Blueprint τ)
  | next (p q : Blueprint τ)
  | wrap (p before after : Blueprint τ)
  | trim (p around : Blueprint τ)
  | alt (first : Blueprint τ) (others : List (Blueprint τ))
  | fallback (p : Blueprint τ) (value : Datum)
  | label (p : Blueprint τ) (name : String)
  | commit (p : Blueprint τ)
  | sequence (ps : List (Blueprint τ))
  | many (p : Blueprint τ)
  | many1 (p : Blueprint τ)
  | sepBy (p separator : Blueprint τ)
  | sepBy1 (p separator : Blueprint τ)
  /-- Memoize under a key, a fresh one if none is given; the entries may hold boxed values. -/
  | memo (p : Blueprint τ) (key : Option Key) (parity : Parity) (boxed : Bool)
  /-- Refer to a rule. -/
  | ref (rule : String)
  /-- Refer to a copy of a rule that is built when it is first run. -/
  | copy (rule : String)
  /-- Yield the context. -/
  | probe
  /-- Succeed or fail so many positions further on, with the given used set. -/
  | jump (width : Nat) (used : Used) (result : Except Reason Datum)
  | count (label : String) (p : Blueprint τ)

/-- The description of what follows a value. -/
inductive Continuation (τ : Type)
  | always (p : Blueprint τ)
  /-- What the value consists of, once more. -/
  | same
  /-- One parser if the value is the given one, another if not. -/
  | branch (value : Datum) (p q : Blueprint τ)
  /-- As many repetitions as the value says. -/
  | times (p : Blueprint τ)
  | unit (f : Transform)
  | fail (reason : Reason)

end

namespace Blueprint

variable {τ : Type} [DecidableEq τ] [Medium τ]

/-- Described grammars name their rules, and every rule yields plain values. -/
def signature (τ : Type) [DecidableEq τ] : Signature where
  Token := τ
  Kind := Kind
  Value
    | .plain => Datum
    | .boxed => Boxed
    | .unit => Unit
  Rule := String
  kind _ := .plain

/-- A parser of a described grammar. -/
abbrev Plain (τ : Type) [DecidableEq τ] := Parser (signature τ) Datum

/-! ## The parsers described -/

/-- The largest position is one less than this. -/
def positionLimit : Nat := 0x10000000000000000

def jumpTo (width : Nat) (used : Used) (result : Except Reason Datum) : Plain τ :=
  .custom fun _ pos _ =>
    let pos := pos + width
    if positionLimit ≤ pos then .done (.error (.overflow .add))
    else
      match result with
      | .ok value => .ok (.success { value, pos, used })
      | .error reason => .ok (.failure { reason, pos, used })

def test (t : Test) (token : τ) : Bool :=
  t.holds (Medium.datum token)

/-- One token, as data. -/
def single (p : Parser (signature τ) τ) : Plain τ :=
  p.map Medium.datum

/-- A part of the input, as data. -/
def part (p : Parser (signature τ) (List τ)) : Plain τ :=
  p.map Medium.whole

/-- Several values, as data. -/
def several (p : Parser (signature τ) (List Datum)) : Plain τ :=
  p.map .list

/-- What a pattern matched, as data. -/
def groups (p : Parser (signature τ) PatternMatch) : Plain τ :=
  p.map fun m => .list (m.groups.map fun g => .ofOption (g.map .text))

def pair (p q : Plain τ) : Plain τ :=
  .zipWith (fun a b => .list [a, b]) p q

def memoized (p : Plain τ) (key : Key) (parity : Parity) : Bool → Plain τ
  | false => .memo (S := signature τ) .plain parity key p
  | true =>
      let box : Parser (signature τ) Boxed := p.map Boxed.mk
      (Parser.memo (S := signature τ) .boxed parity key box).map Boxed.content

/-- How often a value says to repeat: a number, or else not at all. -/
def repetitions (d : Datum) : Nat :=
  (d.number?.getD 0).toNat

mutual

/-- Build the parser that a blueprint describes. -/
def build : Blueprint τ → Build (Plain τ)
  | .literal tokens name => pure (part (.literal tokens name))
  | .token t name => pure (single (.token (test (τ := τ) t) name))
  | .find t name => pure (single (.find (test (τ := τ) t) name))
  | .pattern source name => do
      let p ← LeftRec.pattern (S := signature τ) (Medium.chars (τ := τ)) source name
      return groups p
  | .any => pure (single .any)
  | .all => pure (part .all)
  | .eof => pure (Parser.eof.yielding .null)
  | .fail reason => pure (.fail reason)
  | .look p => return .map .bool (.look (← build p))
  | .unit value => pure (.unit value)
  | .map f p => return (← build p).map f.apply
  | .yielding value p => return (← build p).yielding value
  | .bind p cont => do
      let first ← build p
      follow first cont
  | .app p q => return .zipWith Transform.applyDatum (← build p) (← build q)
  | .ap p q => return .zipWith (fun d f => Transform.applyDatum f d) (← build p) (← build q)
  | .seq p q => return pair (← build p) (← build q)
  | .skip p q => return (← build p).skip (← build q)
  | .next p q => return (← build p).next (← build q)
  | .wrap p before after => return (← build p).wrap (← build before) (← build after)
  | .trim p around => return (← build p).trim (← build around)
  | .alt first others => do
      let p ← build first
      return (← buildAll others).foldl Parser.alt p
  | .fallback p value => return (← build p).fallback value
  | .label p name => return .label name (← build p)
  | .commit p => return .commit (← build p)
  | .sequence ps => return several (.sequence (← buildAll ps))
  | .many p => return several (.many (← build p))
  | .many1 p => return several (.many1 (← build p))
  | .sepBy p separator => return several (.sepBy (← build p) (← build separator))
  | .sepBy1 p separator => return several (.sepBy1 (← build p) (← build separator))
  | .memo p (some key) parity boxed => return memoized (← build p) key parity boxed
  | .memo p none parity boxed => do
      let body ← build p
      Build.freshKey.bind fun key => pure (memoized body key parity boxed)
  | .ref rule => pure (.ref (S := signature τ) rule)
  | .copy rule => Build.freshCell.bind fun cell => pure (.delay (S := signature τ) cell rule)
  | .probe => pure (.custom fun _ pos ctx => .ok (.yield (.ofContext ctx) pos))
  | .jump width used result => pure (jumpTo width used result)
  | .count what p => return .count what (← build p)

/-- Build some parsers in order. -/
def buildAll : List (Blueprint τ) → Build (List (Plain τ))
  | [] => pure []
  | p :: rest => return (← build p) :: (← buildAll rest)

/-- Build a parser that goes on from the value of another one. -/
def follow (p : Plain τ) : Continuation τ → Build (Plain τ)
  | .always q => do
      let q ← build q
      return p.bind fun _ => q
  | .same => pure (p.bind fun d => part (.literal (Medium.tokens (τ := τ) d) d.flatText))
  | .branch value q r => do
      let q ← build q
      let r ← build r
      return p.bind fun d => if d == value then q else r
  | .times q => do
      let q ← build q
      return p.bind fun d => several (.sequence (List.replicate (repetitions d) q))
  | .unit f => pure (p.bind fun d => .unit (f.apply d))
  | .fail reason => pure (p.bind fun _ => .fail reason)

end

/-! ## Grammars of blueprints -/

/-- Rules with their descriptions, in order; a rule may be left without one. -/
abbrev Rules (τ : Type) := List (String × Option (Blueprint τ))

/-- The rules that have a description, built in order and added to those before.  A rule that is
there already must not get a second one. -/
def buildRules (built : List (String × Plain τ)) : Rules τ → Build (List (String × Plain τ))
  | [] => pure built
  | (_, none) :: rest => buildRules built rest
  | (name, some p) :: rest => do
      let p ← build p
      if (built.lookup name).isSome then Build.fault .redefinedRule
      else buildRules ((name, p) :: built) rest

/-- A copy of the rule of a name. -/
def copyRule (rules : Rules τ) (name : String) : Build (Plain τ) :=
  match rules.lookup name with
  | some (some p) => build p
  | _ => Build.fault .undefinedRule

/-- The grammar that some rules describe. -/
def grammar (rules : Rules τ) : Build (Grammar (signature τ)) := do
  let built ← buildRules [] rules
  return { define := fun (name : String) => built.lookup name, copy := copyRule rules }

/-- The language with some rules and a parser to start with, built in that order. -/
def language (rules : Rules τ) (start : Blueprint τ) : Build (Language (signature τ) Datum) := do
  let grammar ← grammar rules
  return { grammar, start := ← build start }

end Blueprint

end LeftRec
