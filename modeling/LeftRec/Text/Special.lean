import LeftRec.Text.Ranges

/-!
# Special code points

Code points that steer how text is shown, and those that text should not have.
-/

namespace LeftRec.Text

/-- The marks that steer the direction of text. -/
def directionRanges : Ranges :=
  [ (0x61c, 0x61c), (0x200e, 0x200f), (0x202a, 0x202e), (0x2066, 0x2069) ]

/-- The code points that should not be used any more. -/
def deprecatedRanges : Ranges :=
  [ (0x149, 0x149), (0x673, 0x673), (0xf77, 0xf77), (0xf79, 0xf79), (0x17a3, 0x17a4),
    (0x206a, 0x206f), (0x2329, 0x232a), (0xe0001, 0xe0001) ]

/-- The code points that choose a form of the character before them. -/
def variationRanges : Ranges :=
  [ (0x180b, 0x180d), (0x180f, 0x180f), (0xfe00, 0xfe0f), (0xe0100, 0xe01ef) ]

/-- The signs that are written around the digits behind them. -/
def numberSignRanges : Ranges :=
  [ (0x600, 0x605), (0x6dd, 0x6dd), (0x70f, 0x70f), (0x890, 0x891), (0x8e2, 0x8e2),
    (0x110bd, 0x110bd), (0x110cd, 0x110cd) ]

/-- The code points that are not shown though they are no format characters. -/
def ignorableRanges : Ranges :=
  [ (0x34f, 0x34f), (0x115f, 0x1160), (0x17b4, 0x17b5), (0x2065, 0x2065), (0x3164, 0x3164),
    (0xffa0, 0xffa0), (0xfff0, 0xfff8), (0xe0000, 0xe0000), (0xe0002, 0xe001f), (0xe0080, 0xe00ff),
    (0xe01f0, 0xe0fff) ]

end LeftRec.Text
