import LeftRec.Json.Value
import LeftRec.Pattern
import LeftRec.Samples.Text

/-!
# The grammar of JSON

Blanks may follow every token.  After the opening bracket of an array or object the parse is
committed, so a failure further in is reported where it is and not as a value that was expected.  A
comma may be left out between items, and one may follow the last.
-/

namespace LeftRec
namespace Json.Grammar

/-- One rule, which yields values. -/
abbrev Rule : Signature := TextSignature Unit Json

abbrev P (α : Type) : Type 1 := Parser Rule α

variable (E : Type) [Regex.Engine E]

/-! ## Tokens -/

def textPattern (source name : String) : Build (P PatternMatch) :=
  patternBy E (S := Rule) id source name

/-- Blanks, perhaps none. -/
def blanks : Build (P Unit) :=
  (textPattern E "\\s*" "whitespace").bind fun p => pure (p.yielding ())

/-- A parser with the blanks after it. -/
def token {α : Type} (p : P α) : Build (P α) :=
  (blanks E).bind fun blanks => pure (p.skip blanks)

def symbol (s : String) : Build (P String) :=
  token E (Parser.text s)

/-! ## Strings -/

/-- What an escaped character stands for. -/
def unescaped : Char → Char
  | 'n' => '\n'
  | 't' => '\t'
  | 'r' => '\r'
  | c => c

/-- The characters that the inside of a quoted string stands for. -/
def unescape : List Char → List Char
  | [] => []
  | '\\' :: [] => []
  | '\\' :: c :: rest => unescaped c :: unescape rest
  | c :: rest => c :: unescape rest

def string : Build (P String) :=
  (textPattern E "\"((?:[^\"\\\\]|\\\\.)*)\"" "string").bind fun quoted =>
    token E (quoted.map fun m => String.ofList (unescape ((m.group 1).getD "").toList))

/-! ## Numbers -/

def numberSource : String :=
  "-?(?:0|[1-9][0-9]*)(?:\\.[0-9]+)?(?:[eE][+-]?[0-9]+)?"

def numeral : Build (P Json) :=
  (textPattern E numberSource "number").bind fun digits =>
    token E (digits.bind fun m =>
      match Decimal.read? m.full.toList with
      | some x => .unit (.number x)
      | none => .fail (.stated "bad number: invalid float literal"))

/-! ## Values -/

def value : P Json :=
  .ref (S := Rule) ()

/-- Items up to a closing bracket. -/
def items {α : Type} (item : P α) (closing : String) : Build (P (List α)) :=
  (symbol E ",").bind fun comma => (symbol E closing).bind fun close =>
    pure ((item.sepBy comma).skip close).commit

def array : Build (P Json) :=
  (symbol E "[").bind fun opening => (items E value "]").bind fun items =>
    pure ((opening.next items).map .array)

def member : Build (P (String × Json)) :=
  (string E).bind fun name => (symbol E ":").bind fun colon =>
    pure ((name.skip colon).seq value)

def object : Build (P Json) :=
  (member E).bind fun member => (symbol E "\x7b").bind fun opening =>
  (items E member "\x7d").bind fun items =>
    pure ((opening.next items).map ofMembers)

/-- A fixed word for a value. -/
def word (s : String) (v : Json) : Build (P Json) :=
  (symbol E s).bind fun p => pure (p.yielding v)

/-- The body of the rule: one of the kinds of values. -/
def body : Build (P Json) :=
  (array E).bind fun array => (object E).bind fun object =>
  (word E "null" .null).bind fun null =>
  (word E "true" (.bool true)).bind fun yes => (word E "false" (.bool false)).bind fun no =>
  (numeral E).bind fun numeral => (string E).bind fun string =>
    pure (.label "JSON value"
      (((((((null ||| yes) ||| no) ||| numeral) ||| string.map .string) ||| array) ||| object)))

/-- A value with blanks before it. -/
def language : Build (Language Rule Json) :=
  (blanks E).bind fun blanks => (body E).bind fun body => Build.freshKey.bind fun key =>
    pure
      { grammar := { define := fun _ => some (.memo (S := Rule) () .even key body) }
        start := blanks.next value }

end Json.Grammar
end LeftRec
