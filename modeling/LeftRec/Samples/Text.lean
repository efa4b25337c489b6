import LeftRec.Checked
import LeftRec.Parser

/-!
# Parsers of words and numbers in text
-/

namespace LeftRec

/-- Grammars over text whose rules all yield values of one type. -/
abbrev TextSignature (ρ α : Type) : Signature :=
  Signature.uniform Char ρ α

namespace Parser

variable {ρ α : Type}

/-- Consume the given text. -/
def text (s : String) : Parser (TextSignature ρ α) String :=
  (Parser.literal (S := TextSignature ρ α) s.toList s).map String.ofList

/-! ## Numbers -/

/-- Put one more decimal digit after a number. -/
def appendDigit (n : Int) (digit : Char) : Except Fault Int := do
  Checked.add (← Checked.multiply n 10) (digit.toNat - '0'.toNat : Nat)

/-- A decimal natural number. -/
def number : Parser (TextSignature ρ α) Int :=
  .label "number"
    ((Parser.token (S := TextSignature ρ α) Char.isDigit "digit").many1.tryMap fun digits =>
      digits.foldlM appendDigit 0)

/-! ## Words -/

/-- One or more ASCII letters. -/
def identifier : Parser (TextSignature ρ α) String :=
  .label "identifier"
    ((Parser.token (S := TextSignature ρ α) Char.isAlpha "letter").many1.map String.ofList)

end Parser
end LeftRec
