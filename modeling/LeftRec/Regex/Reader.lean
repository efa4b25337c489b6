import LeftRec.Regex.Node
import LeftRec.Regex.Property

/-!
# Reading regular expressions

The text of an expression is read from left to right.  Groups that are not closed yet wait on a
stack, with the flags to go back to after them.  Anything that is no expression is refused as a
whole.
-/

namespace LeftRec
namespace Regex

/-! ## Flags -/

/-- How the text that follows is to be understood. -/
structure Flags where
  /-- Characters stand for those that differ from them in case too. -/
  caseless : Bool := false
  /-- The marks of start and end mean those of lines. -/
  multiLine : Bool := false
  /-- A dot takes line ends too. -/
  dotAll : Bool := false
  /-- Repetitions are lazy, and a question mark makes them greedy. -/
  swapGreed : Bool := false
  /-- Classes have the characters of all scripts. -/
  wide : Bool := true
  /-- White space and comments are skipped. -/
  verbose : Bool := false
  /-- Carriage returns end lines too. -/
  returns : Bool := false

/-- Set the flag of a letter. -/
def Flags.set? (flags : Flags) (letter : Char) (on : Bool) : Option Flags :=
  match letter with
  | 'i' => some { flags with caseless := on }
  | 'm' => some { flags with multiLine := on }
  | 's' => some { flags with dotAll := on }
  | 'U' => some { flags with swapGreed := on }
  | 'u' => some { flags with wide := on }
  | 'x' => some { flags with verbose := on }
  | 'R' => some { flags with returns := on }
  | _ => none

/-- Letters of flags up to a colon or a parenthesis.  Those after a hyphen are switched off.  No
letter may stand twice, and a letter must follow the hyphen.  Yields the flags, whether there was
anything, the character that ended them, and the rest. -/
def readFlags (flags : Flags) (seen : List Char) :
    List Char → Option (Flags × Bool × Char × List Char)
  | [] => none
  | c :: rest =>
      if c = ':' ∨ c = ')' then
        if seen.head? = some '-' then none else some (flags, !seen.isEmpty, c, rest)
      else if seen.contains c then none
      else if c = '-' then readFlags flags (c :: seen) rest
      else (flags.set? c !(seen.contains '-')).bind fun flags => readFlags flags (c :: seen) rest

/-! ## Blanks -/

/-- The rest after white space and comments, which go on to the end of their line. -/
def dropBlanks (inComment : Bool) : List Char → List Char
  | [] => []
  | c :: rest =>
      if inComment then dropBlanks (c ≠ '\n') rest
      else if Text.isBlank c then dropBlanks false rest
      else if c = '#' then dropBlanks true rest
      else c :: rest

/-- Skip white space and comments where they do not count. -/
def Flags.skip (flags : Flags) (cs : List Char) : List Char :=
  if flags.verbose then dropBlanks false cs else cs

/-! ## Atoms -/

/-- What a single character or an escape stands for. -/
inductive Atom
  | char (c : Char)
  /-- A byte, given by two digits. -/
  | byte (c : Char)
  | set (s : CharSet)
  | look (kind : Look)

/-- Characters that mean themselves only after a backslash. -/
def isMeta (c : Char) : Bool :=
  ['\\', '.', '+', '*', '?', '(', ')', '|', '[', ']', '\x7b', '\x7d', '^', '$', '#', '&', '-',
    '~'].contains c

/-- ASCII characters that may follow a backslash without a meaning of their own. -/
def isEscapable (c : Char) : Bool :=
  c.toNat < 128 && !c.isAlphanum && c != '<' && c != '>'

def hexDigit? (c : Char) : Option Nat :=
  if c.isDigit then some (c.toNat - '0'.toNat)
  else if 'a' ≤ c ∧ c ≤ 'f' then some (c.toNat - 'a'.toNat + 10)
  else if 'A' ≤ c ∧ c ≤ 'F' then some (c.toNat - 'A'.toNat + 10)
  else none

/-- The character of a code point. -/
def charOf? (n : Nat) : Option Char :=
  if n.isValidChar then some (Char.ofNat n) else none

/-- So many digits of base sixteen. -/
def readHexDigits (flags : Flags) : Nat → Nat → List Char → Option (Nat × List Char)
  | 0, n, rest => some (n, rest)
  | count + 1, n, rest =>
      match flags.skip rest with
      | [] => none
      | c :: rest => (hexDigit? c).bind fun d => readHexDigits flags count (16 * n + d) rest

/-- Digits of base sixteen up to a closing brace, at least one. -/
def readHexBraced (flags : Flags) : Nat → Option Nat → List Char → Option (Nat × List Char)
  | 0, _, _ => none
  | fuel + 1, n, rest =>
      match flags.skip rest with
      | [] => none
      | '\x7d' :: rest => n.map (·, rest)
      | c :: rest =>
          (hexDigit? c).bind fun d => readHexBraced flags fuel (some (16 * n.getD 0 + d)) rest

/-- A character by its code, after the letter that says how many digits there are. -/
def readHex (flags : Flags) (letter : Char) (rest : List Char) : Option (Atom × List Char) :=
  match flags.skip rest with
  | '\x7b' :: rest => do
      let (n, rest) ← readHexBraced flags (rest.length + 1) none rest
      return (.char (← charOf? n), rest)
  | rest => do
      let count := if letter = 'x' then 2 else if letter = 'u' then 4 else 8
      let (n, rest) ← readHexDigits flags count 0 rest
      let c ← charOf? n
      return (if letter = 'x' then .byte c else .char c, rest)

/-- The characters up to a closing brace. -/
def readName (flags : Flags) : Nat → List Char → Option (List Char × List Char)
  | 0, _ => none
  | fuel + 1, rest =>
      match flags.skip rest with
      | [] => none
      | '\x7d' :: rest => some ([], rest)
      | c :: rest => (readName flags fuel rest).map fun (name, rest) => (c :: name, rest)

/-- Cut a name at the first of the signs that compare a property with a value; the flag says that
the value is not to be had. -/
def cutName : List Char → List Char → Option (List Char × List Char × Bool)
  | _, [] => none
  | before, '!' :: '=' :: rest => some (before.reverse, rest, true)
  | before, c :: rest => cutName (c :: before) rest

/-- Cut a name at the first of some characters. -/
def cutAt (sign : Char) (name : List Char) : Option (List Char × List Char × Bool) :=
  match name.span (· ≠ sign) with
  | (before, _ :: after) => some (before, after, false)
  | _ => none

/-- The set for a name in braces. -/
def setOfName? (name : List Char) : Option CharSet :=
  match (cutName [] name).or ((cutAt ':' name).or (cutAt '=' name)) with
  | some (property, value, negated) =>
      (Property.valued? property value).map (CharSet.negateIf negated)
  | none => Property.named? name

/-- A set of characters by a property, after the letter that introduces it. -/
def readProperty (flags : Flags) (negated : Bool) (rest : List Char) :
    Option (Atom × List Char) := do
  let (s, rest) ← match flags.skip rest with
    | '\x7b' :: rest => do
        let (name, rest) ← readName flags (rest.length + 1) rest
        some (← setOfName? name, rest)
    | c :: rest => if c = '\\' then none else some (← Property.named? [c], rest)
    | [] => none
  if flags.wide then return (.set ((s.foldIf flags.caseless).negateIf negated), rest) else none

/-- All sets of characters, or only those of bytes. -/
def Flags.universe (flags : Flags) : CharSet :=
  if flags.wide then .ranges [(0, 0x10ffff)] else .ranges [(0, 0xff)]

/-- The complement within the characters that the flags allow, if asked for. -/
def Flags.negateIf (flags : Flags) (negated : Bool) (s : CharSet) : CharSet :=
  if negated then flags.universe.diff s else s

/-- The set of a letter that names a class. -/
def classOf? (flags : Flags) (letter : Char) : Option CharSet :=
  match letter with
  | 'd' => some (if flags.wide then .digit else .asciiDigit)
  | 's' => some (if flags.wide then .blank else .asciiBlank)
  | 'w' => some (if flags.wide then .word else .asciiWord)
  | _ => none

/-- The letters and hyphens of a condition in braces, up to the closing one. -/
def readCondition (flags : Flags) : Nat → List Char → Option (List Char × List Char)
  | 0, _ => none
  | fuel + 1, rest =>
      match flags.skip rest with
      | [] => none
      | '\x7d' :: rest => some ([], rest)
      | c :: rest =>
          if c.isAlpha || c = '-' then
            (readCondition flags fuel rest).map fun (name, rest) => (c :: name, rest)
          else none

/-- A condition on words.  Letters in braces after it name the condition; any other brace belongs
to a repetition. -/
def readBoundary (flags : Flags) (rest : List Char) : Option (Atom × List Char) :=
  match rest with
  | '\x7b' :: inside =>
      match flags.skip inside with
      | [] => none
      | c :: more =>
          if c.isAlpha || c = '-' then do
            let (name, rest) ← readCondition flags (more.length + 2) (c :: more)
            match String.ofList name with
            | "start" => some (.look .wordStart, rest)
            | "end" => some (.look .wordEnd, rest)
            | "start-half" => some (.look .halfStart, rest)
            | "end-half" => some (.look .halfEnd, rest)
            | _ => none
          else some (.look .boundary, rest)
  | rest => some (.look .boundary, rest)

/-- What follows a backslash. -/
def readEscape (flags : Flags) : List Char → Option (Atom × List Char)
  | [] => none
  | c :: rest =>
      if isMeta c || isEscapable c then some (.char c, rest)
      else
        match c with
        | 'x' | 'u' | 'U' => readHex flags c rest
        | 'p' => readProperty flags false rest
        | 'P' => readProperty flags true rest
        | 'd' | 's' | 'w' => (classOf? flags c).map fun s => (.set s, rest)
        | 'D' | 'S' | 'W' =>
            (classOf? flags c.toLower).map fun s => (.set (flags.negateIf true s), rest)
        | 'a' => some (.char '\x07', rest)
        | 'f' => some (.char '\x0c', rest)
        | 't' => some (.char '\t', rest)
        | 'n' => some (.char '\n', rest)
        | 'r' => some (.char '\r', rest)
        | 'v' => some (.char '\x0b', rest)
        | 'A' => some (.look .textStart, rest)
        | 'z' => some (.look .textEnd, rest)
        | 'b' => readBoundary flags rest
        | 'B' => some (.look .noBoundary, rest)
        | '<' => some (.look .wordStart, rest)
        | '>' => some (.look .wordEnd, rest)
        | _ => none

/-- The expression for a set.  Without wide classes a set must be one of ASCII characters. -/
def nodeOfSet? (flags : Flags) (s : CharSet) : Option Node :=
  if flags.wide || !(List.range 128).any fun i => s.has (128 + i) then some (.set s) else none

/-- The expression for an atom. -/
def Atom.node? (flags : Flags) : Atom → Option Node
  | .char c =>
      if !flags.caseless then some (.set (.single c))
      else if flags.wide then some (.set (CharSet.single c).folded)
      else if c.toNat < 128 then some (.set (CharSet.single c).asciiFold)
      else none
  | .byte c =>
      if flags.wide then some (.set ((CharSet.single c).foldIf flags.caseless))
      else if c.toNat < 128 then
        some (.set (if flags.caseless then (CharSet.single c).asciiFold else .single c))
      else none
  | .set s => nodeOfSet? flags s
  | .look kind => some (.look kind flags.wide)

/-! ## Levels -/

/-- A part of an expression that has been read, with how many levels of other parts it holds. -/
structure Part (α : Type) where
  value : α
  depth : Nat

/-- How many levels some parts in a row make, from how many each of them has.  Two parts or more
make a level of their own. -/
def levels : List Nat → Nat
  | [] => 0
  | [depth] => depth
  | depths => depths.foldl max 0 + 1

/-! ## Sets in brackets -/

/-- The operations between sets in brackets. -/
inductive SetOp
  | inter
  | diff
  | symmDiff

def SetOp.apply : SetOp → CharSet → CharSet → CharSet
  | .inter => .inter
  | .diff => .diff
  | .symmDiff => .symmDiff

/-- The items of a set so far: the characters they stand for, and how many levels each of them
has. -/
structure Members where
  set : CharSet
  depths : List Nat

namespace Members

def none : Members := ⟨.empty, []⟩

def add (members : Members) (item : Part CharSet) : Members :=
  ⟨members.set.union item.value, item.depth :: members.depths⟩

/-- All items as one. -/
def part (members : Members) : Part CharSet :=
  ⟨members.set, levels members.depths⟩

end Members

/-- A bracket that is not closed yet: what stood before it in the bracket around, whether it is
negated, and the operation that waits for its right side. -/
structure Bracket where
  around : Members
  negated : Bool
  waiting : Option (Part CharSet × SetOp)

/-- Close a set under a change of case if the flags say so. -/
def Flags.fold (flags : Flags) (s : CharSet) : CharSet :=
  if !flags.caseless then s else if flags.wide then s.folded else s.asciiFold

/-- What stands in a bracket so far, with the operation that waits for it. -/
def Bracket.close (flags : Flags) (waiting : Option (Part CharSet × SetOp)) (s : Part CharSet) :
    Part CharSet :=
  match waiting with
  | none => s
  | some (left, op) =>
      ⟨op.apply (flags.fold left.value) (flags.fold s.value), max left.depth s.depth + 1⟩

/-- Let an operation wait for what follows. -/
def Bracket.wait (bracket : Bracket) (flags : Flags) (members : Members) (op : SetOp) : Bracket :=
  { bracket with waiting := some (Bracket.close flags bracket.waiting members.part, op) }

/-- The whole set of a bracket that is closed behind some items. -/
def Bracket.whole (bracket : Bracket) (flags : Flags) (members : Members) : Part CharSet :=
  let closed := Bracket.close flags bracket.waiting members.part
  ⟨flags.negateIf bracket.negated (flags.fold closed.value), closed.depth + 1⟩

/-- Hyphens at the start of a bracket, which stand for themselves. -/
def readHyphens (flags : Flags) : Nat → Members → List Char → Members × List Char
  | 0, members, rest => (members, rest)
  | fuel + 1, members, rest =>
      match rest with
      | '-' :: rest => readHyphens flags fuel (members.add ⟨.single '-', 0⟩) (flags.skip rest)
      | rest => (members, rest)

/-- The start of a bracket: a sign of negation, then hyphens, or a closing bracket that stands for
itself. -/
def openBracket (flags : Flags) (rest : List Char) : Bool × Members × List Char :=
  let (negated, rest) := match flags.skip rest with
    | '^' :: rest => (true, flags.skip rest)
    | rest => (false, rest)
  match rest with
  | ']' :: rest => (negated, Members.none.add ⟨.single ']', 0⟩, flags.skip rest)
  | rest =>
      let (members, rest) := readHyphens flags rest.length .none rest
      (negated, members, rest)

/-- One item of a set, before it is known whether a range begins with it. -/
def readItem (flags : Flags) : List Char → Option (Atom × List Char)
  | [] => none
  | '\\' :: rest => readEscape flags rest
  | c :: rest => some (.char c, rest)

/-- The character at an end of a range. -/
def Atom.char? : Atom → Option Char
  | .char c | .byte c => some c
  | _ => none

/-- The set of an item.  Without wide classes only ASCII characters are items. -/
def Atom.set? (flags : Flags) : Atom → Option CharSet
  | .char c => if flags.wide || c.toNat < 128 then some (.single c) else none
  | .byte c => some (.single c)
  | .set s => some s
  | .look _ => none

/-- An item of a set, or a range of two. -/
def readRange (flags : Flags) (rest : List Char) : Option (CharSet × List Char) := do
  let (first, rest) ← readItem flags rest
  let item := (first.set? flags).map (·, flags.skip rest)
  match flags.skip rest with
  | [] => none
  | '-' :: more =>
      match flags.skip more with
      | [] => none
      | ']' :: _ | '-' :: _ => item
      | more => do
          let (second, rest) ← readItem flags more
          let low ← first.char?
          let high ← second.char?
          let _ ← first.set? flags
          let _ ← second.set? flags
          if low ≤ high then some (.ranges [(low.toNat, high.toNat)], rest) else none
  | _ => item

/-- A set by its ASCII name between colons in brackets, after the opening bracket. -/
def readAsciiName? (flags : Flags) (rest : List Char) : Option (CharSet × List Char) :=
  match rest with
  | ':' :: rest =>
      let (negated, rest) := match rest with
        | '^' :: rest => (true, rest)
        | rest => (false, rest)
      match rest.span (· ≠ ':') with
      | (name, ':' :: ']' :: rest) =>
          (CharSet.ofAsciiName? (String.ofList name)).map fun s => (flags.negateIf negated s, rest)
      | _ => none
  | _ => none

/-- The rest of a set in brackets: the items so far, the waiting operation, and the brackets
around. -/
def readSet (flags : Flags) : Nat → Members → Bracket → List Bracket → List Char →
    Option (Part CharSet × List Char)
  | 0, _, _, _, _ => none
  | fuel + 1, members, bracket, stack, rest =>
      match flags.skip rest with
      | [] => none
      | '[' :: rest =>
          match readAsciiName? flags rest with
          | some (item, rest) => readSet flags fuel (members.add ⟨item, 0⟩) bracket stack rest
          | none =>
              let (negated, inner, rest) := openBracket flags rest
              readSet flags fuel inner ⟨members, negated, none⟩ (bracket :: stack) rest
      | ']' :: rest =>
          let whole := bracket.whole flags members
          match stack with
          | [] => some (whole, rest)
          | outer :: stack => readSet flags fuel (bracket.around.add whole) outer stack rest
      | '&' :: '&' :: rest =>
          readSet flags fuel .none (bracket.wait flags members .inter) stack rest
      | '-' :: '-' :: rest =>
          readSet flags fuel .none (bracket.wait flags members .diff) stack rest
      | '~' :: '~' :: rest =>
          readSet flags fuel .none (bracket.wait flags members .symmDiff) stack rest
      | rest => do
          let (item, rest) ← readRange flags rest
          readSet flags fuel (members.add ⟨item, 0⟩) bracket stack rest

/-- A set in brackets, after the opening one. -/
def readBrackets (flags : Flags) (rest : List Char) : Option (Part CharSet × List Char) :=
  let (negated, members, rest) := openBracket flags rest
  readSet flags (rest.length + 1) members ⟨.none, negated, none⟩ [] rest

/-! ## Repetitions -/

/-- A number of 32 bits, with blanks around it. -/
def readNumber (rest : List Char) : Option (Option Nat × List Char) :=
  let (digits, rest) := (rest.dropWhile Text.isBlank).span Char.isDigit
  let n := digits.foldl (fun n c => 10 * n + (c.toNat - '0'.toNat)) 0
  let rest := rest.dropWhile Text.isBlank
  if digits.isEmpty then some (none, rest)
  else if n < 0x100000000 then some (some n, rest)
  else none

/-- The bounds of a repetition in braces, after the opening one. -/
def readBounds (flags : Flags) (rest : List Char) : Option (Nat × Option Nat × List Char) := do
  let (least, rest) ← readNumber (flags.skip rest)
  match rest with
  | '\x7d' :: rest => return (← least, ← least, rest)
  | ',' :: rest =>
      match flags.skip rest with
      | '\x7d' :: rest => return (← least, none, rest)
      | rest =>
          let (most, rest) ← readNumber rest
          match rest with
          | '\x7d' :: rest =>
              if (← least) ≤ (← most) then return (← least, ← most, rest) else none
          | _ => none
  | _ => none

/-! ## Groups -/

/-- The start of a group: one that is kept, perhaps under a name, one that is not, or a change of
flags for the rest of the group around. -/
inductive Opening
  | kept (name : Option (List Char))
  | plain (flags : Flags)
  | change (flags : Flags)

/-- Whether a character may stand in the name of a group. -/
def isNameChar (first : Bool) (c : Char) : Bool :=
  c = '_' || Text.isAlphabetic c ||
    (!first && (c = '.' || c = '[' || c = ']' || Property.numbers.contains c))

/-- The start of a group with a name, from the name to the closing angle. -/
def readNamed (rest : List Char) : Option (Opening × List Char) :=
  match rest.span (· ≠ '>') with
  | (c :: name, _ :: rest) =>
      if isNameChar true c && name.all (isNameChar false) then some (.kept (some (c :: name)), rest)
      else none
  | _ => none

/-- What stands after an opening parenthesis.  Conditions on what follows or precedes, beyond
single characters, are not supported. -/
def readOpening (flags : Flags) (rest : List Char) : Option (Opening × List Char) :=
  match flags.skip rest with
  | '?' :: 'P' :: '<' :: rest => readNamed rest
  | '?' :: '<' :: '=' :: _ | '?' :: '<' :: '!' :: _ => none
  | '?' :: '<' :: rest => readNamed rest
  | '?' :: rest => do
      let (flags, any, stop, rest) ← readFlags flags [] rest
      if stop = ':' then return (.plain flags, rest)
      else if any then return (.change flags, rest)
      else none
  | rest => some (.kept none, rest)

/-! ## Expressions -/

/-- A group that is being read: the branches that ended, and the items of the last one, both in
reverse.  A change of flags is an item that cannot be repeated. -/
structure Open where
  branches : List (Part Node)
  items : List (Part (Option Node))

namespace Open

def new : Open := ⟨[], []⟩

def push (g : Open) (r : Part Node) : Open :=
  { g with items := ⟨some r.value, r.depth⟩ :: g.items }

/-- The items of the last branch as one expression. -/
def branch (g : Open) : Part Node :=
  ⟨Node.concat (g.items.reverse.filterMap Part.value), levels (g.items.map Part.depth)⟩

/-- End a branch. -/
def bar (g : Open) : Open :=
  { branches := g.branch :: g.branches, items := [] }

/-- The expression of the whole group. -/
def whole (g : Open) : Part Node :=
  ⟨Node.choice (g.bar.branches.reverse.map Part.value), levels (g.bar.branches.map Part.depth)⟩

/-- Repeat the last item. -/
def repeatLast? (g : Open) (least : Nat) (most : Option Nat) (greedy : Bool) : Option Open :=
  match g.items with
  | ⟨some r, depth⟩ :: items =>
      some { g with items := ⟨some (.repeated least most greedy r), depth + 1⟩ :: items }
  | _ => none

end Open

/-- What has been read: the flags, the innermost group, and the groups around it, each with the
number it is kept under and the flags to go back to after it. -/
structure Progress where
  flags : Flags
  inner : Open
  outer : List (Option Nat × Flags × Open)
  next : Nat
  names : List (List Char)

namespace Progress

/-- Add an expression that has so many levels, if it is one. -/
def push? (p : Progress) (r : Option Node) (depth : Nat) : Option Progress :=
  r.map fun r => { p with inner := p.inner.push ⟨r, depth⟩ }

/-- Open a group, or change the flags. -/
def open? (p : Progress) : Opening → Option Progress
  | .change flags =>
      some { p with flags, inner := { p.inner with items := ⟨none, 0⟩ :: p.inner.items } }
  | .plain flags =>
      some { p with flags, inner := .new, outer := (none, p.flags, p.inner) :: p.outer }
  | .kept name =>
      if name.any p.names.contains then none
      else
        some
          { p with
            inner := .new
            outer := (some p.next, p.flags, p.inner) :: p.outer
            next := p.next + 1
            names := name.toList ++ p.names }

/-- Close the innermost group. -/
def close? (p : Progress) : Option Progress :=
  match p.outer with
  | [] => none
  | (index, flags, around) :: outer =>
      let r := p.inner.whole
      let group := index.elim r.value fun i => .group i r.value
      some { p with flags, inner := around.push ⟨group, r.depth + 1⟩, outer }

/-- Repeat what was read last.  A question mark after it makes it lazy. -/
def repeat? (p : Progress) (least : Nat) (most : Option Nat) (rest : List Char) :
    Option (Progress × List Char) :=
  let (greedy, rest) := match rest with
    | '?' :: rest => (false, rest)
    | rest => (true, rest)
  (p.inner.repeatLast? least most (greedy != p.flags.swapGreed)).map fun inner =>
    ({ p with inner }, rest)

/-- What a dot stands for. -/
def dot? (flags : Flags) : Option Node :=
  let ends : CharSet :=
    if flags.dotAll then .empty
    else if flags.returns then .ranges [(0xa, 0xa), (0xd, 0xd)]
    else .single '\n'
  nodeOfSet? flags (flags.universe.diff ends)

/-- What the sign for the start of a text or line stands for. -/
def startLook (flags : Flags) : Look :=
  if !flags.multiLine then .textStart else if flags.returns then .lineStartReturn else .lineStart

/-- What the sign for the end of a text or line stands for. -/
def endLook (flags : Flags) : Look :=
  if !flags.multiLine then .textEnd else if flags.returns then .lineEndReturn else .lineEnd

/-- Read one item, of which the first character is given. -/
def step (p : Progress) (c : Char) (rest : List Char) : Option (Progress × List Char) :=
  match c with
  | '(' => do
      let (opening, rest) ← readOpening p.flags rest
      return (← p.open? opening, rest)
  | ')' => p.close?.map (·, rest)
  | '|' => some ({ p with inner := p.inner.bar }, rest)
  | '?' => p.repeat? 0 (some 1) rest
  | '*' => p.repeat? 0 none rest
  | '+' => p.repeat? 1 none rest
  | '\x7b' => do
      let (least, most, rest) ← readBounds p.flags rest
      p.repeat? least most (p.flags.skip rest)
  | '[' => do
      let (s, rest) ← readBrackets p.flags rest
      return (← p.push? (nodeOfSet? p.flags s.value) s.depth, rest)
  | '.' => (p.push? (dot? p.flags) 0).map (·, rest)
  | '^' => (p.push? (some (.look (startLook p.flags) true)) 0).map (·, rest)
  | '$' => (p.push? (some (.look (endLook p.flags) true)) 0).map (·, rest)
  | '\\' => do
      let (atom, rest) ← readEscape p.flags rest
      return (← p.push? (atom.node? p.flags) 0, rest)
  | c => (p.push? (Atom.node? p.flags (.char c)) 0).map (·, rest)

end Progress

/-- Read items to the end of the text.  Each takes at least one character, so the length of the
text is fuel enough. -/
def readItems : Nat → Progress → List Char → Option Progress
  | 0, p, _ => some p
  | fuel + 1, p, rest =>
      match p.flags.skip rest with
      | [] => some p
      | c :: rest => do
          let (p, rest) ← p.step c rest
          readItems fuel p rest

/-! ## Texts -/

/-- An expression may not have more levels than this. -/
def levelLimit : Nat := 250

/-- The expression that a text stands for, if it is one and has not too many levels. -/
def parse? (text : String) : Option Node := do
  let start : Progress := { flags := {}, inner := .new, outer := [], next := 1, names := [] }
  let p ← readItems text.length start text.toList
  let r := p.inner.whole
  if p.outer.isEmpty && r.depth ≤ levelLimit then return r.value else none

end Regex
end LeftRec
