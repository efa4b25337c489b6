import LeftRec.Text.Visible
import LeftRec.Text.Extending

/-!
# Quoted text

Text between double quotes in which every character can be read: a quote, a backslash and the
common control characters have escapes of two characters, and any other character that does not
show, or that would join the one before it, is written by its code.
-/

namespace LeftRec.Text

/-- The digits of a number in base sixteen, in lower case. -/
def hex (n : Nat) : String :=
  String.ofList (Nat.toDigits 16 n)

/-- A character as it stands inside quotes. -/
def escape (c : Char) : String :=
  match c with
  | '\x00' => "\\0"
  | '\t' => "\\t"
  | '\r' => "\\r"
  | '\n' => "\\n"
  | '\\' => "\\\\"
  | '"' => "\\\""
  | c =>
      if isExtending c || !isVisible c then "\\u\x7b" ++ hex c.toNat ++ "\x7d"
      else c.toString

def quote (s : String) : String :=
  "\"" ++ String.join (s.toList.map escape) ++ "\""

end LeftRec.Text
