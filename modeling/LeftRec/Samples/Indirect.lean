import LeftRec.Samples.Text

/-!
# Indirect recursion — two rules that are left-recursive through each other

    s = t "c" | "c"
    t = s "d" | "d"

The value is the derivation, with `s` in brackets and `t` in parentheses.
-/

namespace LeftRec
namespace Samples

inductive IndirectRule
  | s
  | t
  deriving DecidableEq

abbrev IndirectSignature : Signature := TextSignature IndirectRule String

def sRule (parity : Parity) (key : Key) : Parser IndirectSignature String :=
  let t : Parser IndirectSignature String := .ref (S := IndirectSignature) .t
  .memo (S := IndirectSignature) () parity key
    (((t.skip (Parser.text "c")).map fun t => "[" ++ t ++ "c]") ||| Parser.text "c")

def tRule (parity : Parity) (key : Key) : Parser IndirectSignature String :=
  let s : Parser IndirectSignature String := .ref (S := IndirectSignature) .s
  .memo (S := IndirectSignature) () parity key
    (((s.skip (Parser.text "d")).map fun s => "(" ++ s ++ "d)") ||| Parser.text "d")

/-- The grammar with the given keys of its two rules. -/
def indirectGrammar (parity : Parity) (tKey sKey : Key) : Grammar IndirectSignature where
  define
    | .t => some (tRule parity tKey)
    | .s => some (sRule parity sKey)

def indirect (parity : Parity) : Build (Language IndirectSignature String) :=
  Build.freshKey.bind fun tKey => Build.freshKey.bind fun sKey =>
    pure
      { grammar := indirectGrammar parity tKey sKey
        start := .ref (S := IndirectSignature) .s }

end Samples
end LeftRec
