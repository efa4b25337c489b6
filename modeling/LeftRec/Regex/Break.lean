import LeftRec.Regex.Script
import LeftRec.Regex.Trait

/-!
# Breaks

What a character is where a text is cut into what reads as one character, into words, or into
sentences.
-/

namespace LeftRec
namespace Regex
namespace Property

open Text
open CharSet (ranges single)

def joiner : Ranges := [(0x200d, 0x200d)]

/-- Both characters that only change how those around them are joined. -/
def joiners : Ranges := [(0x200c, 0x200d)]

/-! ## Characters as they are read -/

/-- Letters that are written before the consonant they belong to. -/
def prependedLetters : Ranges :=
  [ (0xd4e, 0xd4e), (0x111c2, 0x111c3), (0x1193f, 0x1193f), (0x11941, 0x11941), (0x11a3a, 0x11a3a),
    (0x11a84, 0x11a89), (0x11d46, 0x11d46), (0x11f02, 0x11f02) ]

/-- Spacing marks that stand as characters of their own. -/
def standingMarks : Ranges :=
  [ (0x102b, 0x102c), (0x1038, 0x1038), (0x1062, 0x1064), (0x1067, 0x106d), (0x1083, 0x1083),
    (0x1087, 0x108c), (0x108f, 0x108f), (0x109a, 0x109c), (0x1a61, 0x1a61), (0x1a63, 0x1a64),
    (0xaa7b, 0xaa7b), (0xaa7d, 0xaa7d), (0x11720, 0x11721) ]

/-- Hangul syllables without a final consonant, one for each initial consonant and vowel. -/
def openSyllables : Ranges :=
  (List.range 399).map fun i => (0xac00 + 28 * i, 0xac00 + 28 * i)

def syllables : Ranges := [(0xac00, 0xd7a3)]

/-- What keeps to itself: controls, and what is not shown but for what joins others. -/
def controls : CharSet :=
  ((ranges (lineRanges ++ paragraphRanges ++ controlRanges ++ formatRanges)).union
    ((ranges unassignedRanges).inter ignorable)).diff
      ((ranges ((0xa, 0xa) :: (0xd, 0xd) :: joiners ++ numberSignRanges)).union extending)

def graphemeBreaks : List (List String × CharSet) :=
  [ (["cr"], ranges [(0xd, 0xd)]),
    (["control", "cn"], controls),
    (["extend", "ex"], extending.union (ranges emojiModifierRanges)),
    (["l"], ranges [(0x1100, 0x115f), (0xa960, 0xa97c)]),
    (["lf"], ranges [(0xa, 0xa)]),
    (["lv"], ranges openSyllables),
    (["lvt"], (ranges syllables).diff (ranges openSyllables)),
    (["prepend", "pp"], ranges (numberSignRanges ++ prependedLetters)),
    (["regionalindicator", "ri"], ranges regionalIndicatorRanges),
    (["spacingmark", "sm"],
      (ranges ((0xe33, 0xe33) :: (0xeb3, 0xeb3) :: spacingRanges)).diff
        (extending.union (ranges standingMarks))),
    (["t"], ranges [(0x11a8, 0x11ff), (0xd7cb, 0xd7fb)]),
    (["v"], ranges [(0x1160, 0x11a7), (0xd7b0, 0xd7c6)]),
    (["zwj"], ranges joiner) ]

/-! ## Words -/

/-- What may stand between digits without ending a number. -/
def midDigits : Ranges :=
  [ (0x2c, 0x2c), (0x3b, 0x3b), (0x37e, 0x37e), (0x589, 0x589), (0x60c, 0x60d), (0x66c, 0x66c),
    (0x7f8, 0x7f8), (0x2044, 0x2044), (0xfe10, 0xfe10), (0xfe14, 0xfe14), (0xfe50, 0xfe50),
    (0xfe54, 0xfe54), (0xff0c, 0xff0c), (0xff1b, 0xff1b) ]

/-- What is written together with Katakana without being one of them. -/
def withKatakana : Ranges :=
  [ (0x3031, 0x3035), (0x309b, 0x309c), (0x30a0, 0x30a0), (0x30fc, 0x30fc), (0xff70, 0xff70) ]

/-- Signs within words that are not alphabetic. -/
def wordSigns : Ranges :=
  [ (0x2c2, 0x2c5), (0x2d2, 0x2d7), (0x2de, 0x2df), (0x2e5, 0x2eb), (0x2ed, 0x2ed), (0x2ef, 0x2ff),
    (0x55a, 0x55c), (0x55e, 0x55e), (0x58a, 0x58a), (0x5f3, 0x5f3), (0xa708, 0xa716),
    (0xa720, 0xa721), (0xa789, 0xa78a), (0xab5b, 0xab5b) ]

def hebrewLetters : CharSet :=
  (scriptSets ["hebr"]).inter (ranges otherLetterRanges)

def katakana : CharSet :=
  (scriptSets ["kana"]).union (ranges withKatakana)

/-- What goes with the character before it. -/
def extendingMarks : CharSet :=
  extending.union (ranges spacingRanges)

def extendingWord : CharSet :=
  (extendingMarks.union (ranges emojiModifierRanges)).diff (ranges joiner)

/-- Ideographs, and letters of scripts in which words are not told apart by spaces. -/
def unspaced : CharSet :=
  (ranges ideographRanges).union (scriptSets
    ["hira", "thai", "laoo", "mymr", "khmr", "tale", "talu", "lana", "tavt", "ahom"])

/-- Letters that make words. -/
def wordLetters : CharSet :=
  ((alphabetic.diff (unspaced.union katakana)).diff (extendingWord.union hebrewLetters)).union
    (ranges wordSigns)

/-- Format characters that are no marks. -/
def formats : CharSet :=
  (ranges formatRanges).diff extending

def wordBreaks : List (List String × CharSet) :=
  [ (["aletter", "le"], wordLetters),
    (["cr"], ranges [(0xd, 0xd)]),
    (["doublequote", "dq"], ranges [(0x22, 0x22)]),
    (["extend"], extendingWord),
    (["extendnumlet", "ex"], ranges ((0x202f, 0x202f) :: connectorRanges)),
    (["format", "fo"], formats.diff (ranges ((0x200b, 0x200b) :: joiner))),
    (["hebrewletter", "hl"], hebrewLetters),
    (["katakana", "ka"], katakana),
    (["lf"], ranges [(0xa, 0xa)]),
    (["midletter", "ml"], ranges midLetters),
    (["midnum", "mn"], ranges midDigits),
    (["midnumlet", "mb"], ranges midBoth),
    (["newline", "nl"], ranges [(0xb, 0xc), (0x85, 0x85), (0x2028, 0x2029)]),
    (["numeric", "nu"], ranges ((0x66b, 0x66b) :: decimalRanges)),
    (["regionalindicator", "ri"], ranges regionalIndicatorRanges),
    (["singlequote", "sq"], ranges [(0x27, 0x27)]),
    (["wsegspace"],
      (ranges spaceRanges).diff (ranges [(0xa0, 0xa0), (0x2007, 0x2007), (0x202f, 0x202f)])),
    (["zwj"], ranges joiner) ]

/-! ## Sentences -/

/-- Stops that may end a sentence or an abbreviation. -/
def stops : Ranges := [(0x2e, 0x2e), (0x2024, 0x2024), (0xfe52, 0xfe52), (0xff0e, 0xff0e)]

/-- What may stand within a sentence behind a stop. -/
def sentenceSigns : Ranges :=
  [ (0x2c, 0x2d), (0x3a, 0x3a), (0x55d, 0x55d), (0x60c, 0x60d), (0x7f8, 0x7f8), (0x1802, 0x1802),
    (0x1808, 0x1808), (0x2013, 0x2014), (0x3001, 0x3001), (0xfe10, 0xfe11), (0xfe13, 0xfe13),
    (0xfe31, 0xfe32), (0xfe50, 0xfe51), (0xfe55, 0xfe55), (0xfe58, 0xfe58), (0xfe63, 0xfe63),
    (0xff0c, 0xff0d), (0xff1a, 0xff1a), (0xff64, 0xff64) ]

/-- Quotation marks that are no brackets. -/
def plainQuotes : Ranges :=
  [ (0x22, 0x22), (0x27, 0x27), (0x275b, 0x2760), (0x2e00, 0x2e01), (0x2e06, 0x2e08),
    (0x2e0b, 0x2e0b), (0x1f676, 0x1f678) ]

def separatingLines : Ranges := [(0x85, 0x85), (0x2028, 0x2029)]

def smallLetters : CharSet :=
  lowercase.diff (extending.union (ranges mkhedruliRanges))

def capitalLetters : CharSet :=
  (ranges (titleRanges ++ uppercaseRanges)).diff (ranges mtavruliRanges)

/-- What goes with the character before it in a sentence. -/
def extendingSentence : CharSet :=
  extendingMarks.union (ranges joiner)

def sentenceBreaks : List (List String × CharSet) :=
  [ (["aterm", "at"], ranges stops),
    (["cr"], ranges [(0xd, 0xd)]),
    (["close", "cl"],
      (ranges (openingRanges ++ closingRanges ++ initialQuoteRanges ++ finalQuoteRanges ++
        plainQuotes)).diff (ranges sentenceEndRanges)),
    (["extend", "ex"], extendingSentence),
    (["format", "fo"], formats.diff (ranges joiner)),
    (["lf"], ranges [(0xa, 0xa)]),
    (["lower", "lo"], smallLetters),
    (["numeric", "nu"], ranges ((0x66b, 0x66c) :: decimalRanges)),
    (["oletter", "le"],
      (alphabetic.union (ranges [(0x5f3, 0x5f3)])).diff
        ((smallLetters.union capitalLetters).union extendingSentence)),
    (["scontinue", "sc"], ranges sentenceSigns),
    (["sterm", "st"], (ranges sentenceEndRanges).diff (ranges stops)),
    (["sep", "se"], ranges separatingLines),
    (["sp"],
      CharSet.blank.diff (ranges ((0xa, 0xa) :: (0xd, 0xd) :: separatingLines))),
    (["upper", "up"], capitalLetters) ]

end Property
end Regex
end LeftRec
