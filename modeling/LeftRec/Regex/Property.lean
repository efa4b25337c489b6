import LeftRec.Regex.Break

/-!
# Properties of characters by name

The names that select characters by a trait, by a general category, by a script or by the value of
another property.  Case, spaces, hyphens and underscores in a name do not matter, nor does "is"
before it, nor what is not ASCII.
-/

namespace LeftRec
namespace Regex
namespace Property

/-- The form of a name that is looked up.  A comment property has a short name that begins as if
"is" stood before it. -/
def normalize (name : List Char) : String :=
  let isPrefixed := (name.take 2).map Char.toLower = ['i', 's']
  let plain := if isPrefixed then name.drop 2 else name
  let kept := plain.filter fun c => c.toNat < 128 && c ≠ ' ' && c ≠ '_' && c ≠ '-'
  let form := String.ofList (kept.map Char.toLower)
  if isPrefixed && form = "c" then "isc" else form

/-- The set of a name in a table. -/
def lookup? (table : List (List String × CharSet)) (name : String) : Option CharSet :=
  (table.find? (·.1.contains name)).map Prod.snd

/-- The set that a name on its own stands for: a trait, a general category or a script. -/
def named? (name : List Char) : Option CharSet :=
  let name := normalize name
  ((lookup? traits name).or (categorySet? name)).or (scriptSet? name)

/-- The set of the characters for which a property has a value. -/
def valued? (property value : List Char) : Option CharSet :=
  let value := normalize value
  match normalize property with
  | "gc" | "generalcategory" => categorySet? value
  | "sc" | "script" => scriptSet? value
  | "scx" | "scriptextensions" => extensionSet? value
  | "age" => ageSet? value
  | "gcb" | "graphemeclusterbreak" => lookup? graphemeBreaks value
  | "wb" | "wordbreak" => lookup? wordBreaks value
  | "sb" | "sentencebreak" => lookup? sentenceBreaks value
  | _ => none

end Property
end Regex
end LeftRec
