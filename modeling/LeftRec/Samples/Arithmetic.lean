import LeftRec.Samples.Text

/-!
# Arithmetic — sums of products

The usual grammar of two levels, left-recursive at both:

    expr   = expr "+" term | expr "-" term | term
    term   = term "*" factor | term "/" factor | factor
    factor = number | "(" expr ")"
-/

namespace LeftRec
namespace Samples

inductive ArithmeticRule
  | expr
  | term
  deriving DecidableEq

abbrev ArithmeticSignature : Signature := TextSignature ArithmeticRule Int

/-- A binary operation between what two parsers yield. -/
def operation (left : Parser ArithmeticSignature Int) (sign : String)
    (f : Int → Int → Except Fault Int) (right : Parser ArithmeticSignature Int) :
    Parser ArithmeticSignature Int :=
  (left.skip (.text sign) + right).tryMap fun (a, b) => f a b

def factor : Parser ArithmeticSignature Int :=
  let expr : Parser ArithmeticSignature Int := .ref (S := ArithmeticSignature) .expr
  Parser.number ||| expr.wrap (Parser.text "(") (Parser.text ")")

def termRule (parity : Parity) (key : Key) : Parser ArithmeticSignature Int :=
  let term : Parser ArithmeticSignature Int := .ref (S := ArithmeticSignature) .term
  .memo (S := ArithmeticSignature) () parity key
    ((operation term "*" Checked.multiply factor ||| operation term "/" Checked.divide factor)
      ||| factor)

def exprRule (parity : Parity) (key : Key) : Parser ArithmeticSignature Int :=
  let expr : Parser ArithmeticSignature Int := .ref (S := ArithmeticSignature) .expr
  let term : Parser ArithmeticSignature Int := .ref (S := ArithmeticSignature) .term
  .memo (S := ArithmeticSignature) () parity key
    ((operation expr "+" Checked.add term ||| operation expr "-" Checked.subtract term) ||| term)

/-- The grammar with the given keys of its two rules. -/
def arithmeticGrammar (parity : Parity) (termKey exprKey : Key) : Grammar ArithmeticSignature where
  define
    | .term => some (termRule parity termKey)
    | .expr => some (exprRule parity exprKey)

def arithmetic (parity : Parity) : Build (Language ArithmeticSignature Int) :=
  Build.freshKey.bind fun termKey => Build.freshKey.bind fun exprKey =>
    pure
      { grammar := arithmeticGrammar parity termKey exprKey
        start := .ref (S := ArithmeticSignature) .expr }

end Samples
end LeftRec
