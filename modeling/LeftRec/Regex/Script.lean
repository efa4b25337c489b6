import LeftRec.Regex.CharSet
import LeftRec.Text.Age
import LeftRec.Text.Extension
import LeftRec.Text.Script.Africa
import LeftRec.Text.Script.EastAsia
import LeftRec.Text.Script.Europe
import LeftRec.Text.Script.MiddleEast
import LeftRec.Text.Script.Shared
import LeftRec.Text.Script.SouthAsia
import LeftRec.Text.Script.SoutheastAsia

/-!
# Scripts and ages by name

The script of a character, the scripts that it is used with, and the version that brought it.
-/

namespace LeftRec
namespace Regex
namespace Property

open Text

/-! ## Scripts -/

def scripts : List Script :=
  europeanScripts ++ africanScripts ++ middleEasternScripts ++ southAsianScripts ++
    southeastAsianScripts ++ eastAsianScripts ++ americanScripts ++ sharedScripts

/-- The script of a name. -/
def script? (name : String) : Option Script :=
  scripts.find? (·.names.contains name)

/-- The characters of a script. -/
def scriptSet? (name : String) : Option CharSet :=
  (script? name).map fun script => .ranges script.ranges

/-- The characters of some scripts together. -/
def scriptSets (names : List String) : CharSet :=
  .ranges (names.flatMap fun name => ((script? name).map Script.ranges).getD [])

/-- The characters for which it is told with which scripts they are used. -/
def sharedRanges : Ranges :=
  sharings.flatMap Sharing.ranges

/-- The characters that are used with a script. -/
def extensionSet? (name : String) : Option CharSet :=
  (script? name).map fun script =>
    let sharing := sharings.filter fun sharing => script.names.any sharing.scripts.contains
    ((CharSet.ranges script.ranges).diff (.ranges sharedRanges)).union
      (.ranges (sharing.flatMap Sharing.ranges))

/-! ## Ages -/

/-- Whether a name is that of a version. -/
def isVersion (name : String) (version : Version) : Bool :=
  name = version.number || name = "v" ++ String.ofList (version.number.toList.filter (· ≠ '.'))

/-- The characters of a version, which are those of the versions before it, too. -/
def ageSet? (name : String) : Option CharSet :=
  (versions.findIdx? (isVersion name)).map fun i =>
    .ranges ((versions.take (i + 1)).flatMap Version.ranges)

end Property
end Regex
end LeftRec
