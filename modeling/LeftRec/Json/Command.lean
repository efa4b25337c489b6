import LeftRec.Json.Grammar
import LeftRec.Memo.Hashed
import LeftRec.Report
import LeftRec.Session

/-!
# The JSON command

The command parses its input as one JSON value and shows it as a term.  If that fails it reports the
failure with the source around it, and then the failure itself as a term.
-/

namespace LeftRec

/-! ## Failures as terms -/

/-- A name applied to the term of its only part. -/
def Text.apply (name argument : String) : String :=
  name ++ "(" ++ argument ++ ")"

def Reason.term : Reason → String
  | .expected what =>
      Text.apply "Expected" (Text.apply "Expected"
        ("[" ++ ", ".intercalate (what.items.map Text.quote) ++ "]"))
  | .fatal text =>
      Text.apply "Fatal" ("FatalParseError \x7b message: " ++ Text.quote text ++ " \x7d")
  | .curtailment => "Curtailment"
  | .stated text => Text.apply "Message" (Text.quote text)

def Used.term (used : Used) : String :=
  "Used \x7b keys: [" ++ ", ".intercalate (used.keys.map Key.describe) ++ "] \x7d"

def Failure.term (failure : Failure) : String :=
  "Failure \x7b error: " ++ failure.reason.term ++ ", pos: " ++ toString failure.pos ++
    ", used: " ++ failure.used.term ++ " \x7d"

namespace Json

/-! ## The command -/

/-- What a command leaves behind. -/
structure Response where
  code : Nat
  output : String
  errors : String

def respond (text : String) : Response :=
  let input := Input.ofText text
  let start : State Grammar.Rule HashedTable := .new
  match Eval.building (Grammar.language Regex.Automaton) (fun L => L.parse input true) start with
  | .done (.success s) _ => ⟨0, s.value.term 0 ++ "\n", ""⟩
  | .done (.failure f) _ =>
      ⟨1, "", f.report input Char.toString Failure.defaultWidth ++ "Error: " ++ f.term ++ "\n"⟩
  | .stopped fault _ => ⟨101, "", fault.message ++ "\n"⟩
  | .exhausted => ⟨101, "", ""⟩

end Json
end LeftRec
