import LeftRec.Text.Ranges

/-!
# Blank characters

The characters that count as white space, separators of lines and paragraphs among them.
-/

namespace LeftRec.Text

/-- The code points of white space. -/
def blankRanges : Ranges :=
  [ (0x9, 0xd), (0x20, 0x20), (0x85, 0x85), (0xa0, 0xa0), (0x1680, 0x1680), (0x2000, 0x200a),
    (0x2028, 0x2029), (0x202f, 0x202f), (0x205f, 0x205f), (0x3000, 0x3000) ]

/-- Whether a character is white space. -/
def isBlank (c : Char) : Bool :=
  blankRanges.contains c

end LeftRec.Text
