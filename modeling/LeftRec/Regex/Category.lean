import LeftRec.Regex.CharSet
import LeftRec.Text.Category.Letters
import LeftRec.Text.Category.Marks
import LeftRec.Text.Category.Others
import LeftRec.Text.Category.Punctuation
import LeftRec.Text.Category.Symbols

/-!
# General categories

The categories of characters by their names, and the groups of categories that have names of their
own.
-/

namespace LeftRec
namespace Regex
namespace Property

open Text

def letters : Ranges :=
  upperRanges ++ lowerRanges ++ titleRanges ++ modifierRanges ++ otherLetterRanges

def marks : Ranges :=
  nonspacingRanges ++ spacingRanges ++ enclosingRanges

def numbers : Ranges :=
  decimalRanges ++ letterNumberRanges ++ otherNumberRanges

def punctuation : Ranges :=
  connectorRanges ++ dashRanges ++ openingRanges ++ closingRanges ++ initialQuoteRanges ++
    finalQuoteRanges ++ otherPunctuationRanges

def symbols : Ranges :=
  mathRanges ++ currencyRanges ++ modifierSymbolRanges ++ otherSymbolRanges

def separators : Ranges :=
  spaceRanges ++ lineRanges ++ paragraphRanges

def others : Ranges :=
  controlRanges ++ formatRanges ++ privateUseRanges ++ unassignedRanges

/-- All code points but those that are not assigned. -/
def assigned : CharSet :=
  (CharSet.ranges unassignedRanges).compl

/-- The characters of a general category. -/
def category? : String → Option Ranges
  | "l" | "letter" => some letters
  | "lc" | "casedletter" => some (upperRanges ++ lowerRanges ++ titleRanges)
  | "lu" | "uppercaseletter" => some upperRanges
  | "ll" | "lowercaseletter" => some lowerRanges
  | "lt" | "titlecaseletter" => some titleRanges
  | "lm" | "modifierletter" => some modifierRanges
  | "lo" | "otherletter" => some otherLetterRanges
  | "m" | "mark" | "combiningmark" => some marks
  | "mn" | "nonspacingmark" => some nonspacingRanges
  | "mc" | "spacingmark" => some spacingRanges
  | "me" | "enclosingmark" => some enclosingRanges
  | "n" | "number" => some numbers
  | "nd" | "decimalnumber" | "digit" => some decimalRanges
  | "nl" | "letternumber" => some letterNumberRanges
  | "no" | "othernumber" => some otherNumberRanges
  | "p" | "punctuation" | "punct" => some punctuation
  | "pc" | "connectorpunctuation" => some connectorRanges
  | "pd" | "dashpunctuation" => some dashRanges
  | "ps" | "openpunctuation" => some openingRanges
  | "pe" | "closepunctuation" => some closingRanges
  | "pi" | "initialpunctuation" => some initialQuoteRanges
  | "pf" | "finalpunctuation" => some finalQuoteRanges
  | "po" | "otherpunctuation" => some otherPunctuationRanges
  | "s" | "symbol" => some symbols
  | "sm" | "mathsymbol" => some mathRanges
  | "sc" | "currencysymbol" => some currencyRanges
  | "sk" | "modifiersymbol" => some modifierSymbolRanges
  | "so" | "othersymbol" => some otherSymbolRanges
  | "z" | "separator" => some separators
  | "zs" | "spaceseparator" => some spaceRanges
  | "zl" | "lineseparator" => some lineRanges
  | "zp" | "paragraphseparator" => some paragraphRanges
  | "c" | "other" => some others
  | "cc" | "control" | "cntrl" => some controlRanges
  | "cf" | "format" => some formatRanges
  | "co" | "privateuse" => some privateUseRanges
  | "cn" | "unassigned" => some unassignedRanges
  | _ => none

/-- The set of a general category, or of one of the names that go with the categories. -/
def categorySet? : String → Option CharSet
  | "any" => some (.ranges [(0, 0x10ffff)])
  | "assigned" => some assigned
  | "ascii" => some (.ranges [(0, 0x7f)])
  | name => (category? name).map .ranges

end Property
end Regex
end LeftRec
