import LeftRec.Text.Ranges

/-!
# Scripts

Every character that is assigned belongs to one script, or is common to several.
-/

namespace LeftRec.Text

/-- A script with the names it goes by, the long one first and its code next, and the characters
that belong to it. -/
structure Script where
  names : List String
  ranges : Ranges

end LeftRec.Text
