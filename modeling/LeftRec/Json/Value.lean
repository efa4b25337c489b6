import LeftRec.Decimal.Notation
import LeftRec.Text.Quoted

/-!
# JSON values and how they are shown

The members of an object are kept in the order of their names, each name once.  A value is shown as
a term over several lines, with every part on lines of its own.
-/

namespace LeftRec

inductive Json
  | null
  | bool (b : Bool)
  | number (x : Float)
  | string (s : String)
  | array (items : List Json)
  | object (members : List (String × Json))

namespace Json

/-! ## Objects -/

/-- Put a member at its place, instead of one of the same name. -/
def place (name : String) (value : Json) : List (String × Json) → List (String × Json)
  | [] => [(name, value)]
  | (other, old) :: rest =>
      match compare name other with
      | .lt => (name, value) :: (other, old) :: rest
      | .eq => (name, value) :: rest
      | .gt => (other, old) :: place name value rest

/-- The object of some members, of which the last with a name counts. -/
def ofMembers (members : List (String × Json)) : Json :=
  .object (members.foldl (fun placed (name, value) => place name value placed) [])

/-! ## Terms -/

/-- Numbers have their point in place from `0.0001` on and below `1e16`. -/
def numberLayout : Decimal.Layout := ⟨-4, 15⟩

/-- The start of a line at a depth. -/
def indent (depth : Nat) : String :=
  String.ofList (List.replicate (4 * depth) ' ')

/-- Parts between brackets, each on a line of its own and followed by a comma. -/
def block (opening closing : String) (depth : Nat) (parts : List String) : String :=
  if parts.isEmpty then opening ++ closing
  else
    opening ++ "\n" ++ String.join (parts.map fun part => indent (depth + 1) ++ part ++ ",\n") ++
      indent depth ++ closing

mutual

/-- A value as a term whose last line is at the given depth. -/
def term (depth : Nat) : Json → String
  | .null => "Null"
  | .bool b => block "Bool(" ")" depth [if b then "true" else "false"]
  | .number x => block "Number(" ")" depth [Decimal.write numberLayout x]
  | .string s => block "String(" ")" depth [Text.quote s]
  | .array items => block "Array(" ")" depth [block "[" "]" (depth + 1) (terms (depth + 2) items)]
  | .object members =>
      block "Object(" ")" depth [block "\x7b" "\x7d" (depth + 1) (memberTerms (depth + 2) members)]

def terms (depth : Nat) : List Json → List String
  | [] => []
  | item :: rest => term depth item :: terms depth rest

def memberTerms (depth : Nat) : List (String × Json) → List String
  | [] => []
  | (name, value) :: rest =>
      (Text.quote name ++ ": " ++ term depth value) :: memberTerms depth rest

end

end Json
end LeftRec
