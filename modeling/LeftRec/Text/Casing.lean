import LeftRec.Text.Ranges

/-!
# Casing

Where the case of a character is changed otherwise than by the folding of single characters.
-/

namespace LeftRec.Text

/-- Characters that fold to more than one character, or do so in another way only. -/
def widenedRanges : Ranges :=
  [ (0xdf, 0xdf), (0x130, 0x130), (0x149, 0x149), (0x587, 0x587), (0x1e9a, 0x1e9a),
    (0x1f80, 0x1f87), (0x1f90, 0x1f97), (0x1fa0, 0x1fa7), (0x1fb2, 0x1fb4), (0x1fb7, 0x1fb7),
    (0x1fc2, 0x1fc4), (0x1fc7, 0x1fc7), (0x1ff2, 0x1ff4), (0x1ff7, 0x1ff7), (0xfb00, 0xfb06),
    (0xfb13, 0xfb17) ]

/-- Small letters without a capital letter of their own. -/
def capitallessRanges : Ranges :=
  [ (0x131, 0x131), (0x149, 0x149), (0x1f0, 0x1f0), (0x390, 0x390), (0x3b0, 0x3b0), (0x587, 0x587),
    (0x1e96, 0x1e9a), (0x1f50, 0x1f50), (0x1f52, 0x1f52), (0x1f54, 0x1f54), (0x1f56, 0x1f56),
    (0x1fb2, 0x1fb2), (0x1fb4, 0x1fb4), (0x1fb6, 0x1fb7), (0x1fc2, 0x1fc2), (0x1fc4, 0x1fc4),
    (0x1fc6, 0x1fc7), (0x1fd2, 0x1fd3), (0x1fd6, 0x1fd7), (0x1fe2, 0x1fe4), (0x1fe6, 0x1fe7),
    (0x1ff2, 0x1ff2), (0x1ff4, 0x1ff4), (0x1ff6, 0x1ff7), (0xfb00, 0xfb06), (0xfb13, 0xfb17) ]

/-- Pairs of letters whose first letter alone is a capital in a title. -/
def digraphRanges : Ranges :=
  [ (0x1c4, 0x1c4), (0x1c7, 0x1c7), (0x1ca, 0x1ca), (0x1f1, 0x1f1) ]

/-- Capital Cherokee letters, which small ones fold to. -/
def cherokeeRanges : Ranges :=
  [ (0x13a0, 0x13f5) ]

/-- Georgian letters, which have capitals but do not begin titles with them. -/
def mkhedruliRanges : Ranges :=
  [ (0x10d0, 0x10fa), (0x10fd, 0x10ff) ]

/-- Capital Georgian letters. -/
def mtavruliRanges : Ranges :=
  [ (0x1c90, 0x1cba), (0x1cbd, 0x1cbf) ]

end LeftRec.Text
