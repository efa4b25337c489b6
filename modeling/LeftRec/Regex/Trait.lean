import LeftRec.Regex.Category
import LeftRec.Text.Alphabetic
import LeftRec.Text.Case
import LeftRec.Text.Casing
import LeftRec.Text.Emoji
import LeftRec.Text.Extending
import LeftRec.Text.Ideograph
import LeftRec.Text.Marking
import LeftRec.Text.Sign
import LeftRec.Text.Special

/-!
# Traits

The properties that a character has or lacks.  Most of them are put together from the categories
and from others of them, as they are defined, and what has no such definition is a table.
-/

namespace LeftRec
namespace Regex
namespace Property

open Text
open CharSet (ranges)

/-! ## Case -/

def alphabetic : CharSet := ranges alphabeticRanges

def lowercase : CharSet := ranges lowercaseRanges

def uppercase : CharSet := ranges uppercaseRanges

def cased : CharSet := ranges (lowercaseRanges ++ uppercaseRanges ++ titleRanges)

/-- Characters that fold to something else, alone or with others.  One small iota among them is not
changed if it is taken apart first. -/
def changesFolded : CharSet :=
  (ranges (folding ++ widenedRanges)).diff (ranges [(0x1fbe, 0x1fbe)])

/-- Characters with a small letter other than themselves. -/
def changesLowered : CharSet :=
  ((ranges folding).diff lowercase).union (ranges ((0x130, 0x130) :: cherokeeRanges))

/-- Small letters that change if they are raised, in a title or throughout. -/
def raised : CharSet :=
  (((ranges folding).inter lowercase).union (ranges (folded ++ capitallessRanges))).diff
    (ranges cherokeeRanges)

def changesRaised : CharSet :=
  raised.union (ranges titleRanges)

def changesTitled : CharSet :=
  (raised.union (ranges digraphRanges)).diff (ranges mkhedruliRanges)

def changesMapped : CharSet :=
  (changesLowered.union changesRaised).union changesTitled

/-! ## Identifiers and patterns -/

def extending : CharSet := ranges extendingRanges

def patternSyntax : CharSet := ranges (patternSyntaxRanges ++ patternBlankRanges)

/-- Characters that begin identifiers without being letters. -/
def otherStart : Ranges :=
  [ (0x1885, 0x1886), (0x2118, 0x2118), (0x212e, 0x212e), (0x309b, 0x309c) ]

/-- Characters that go on with identifiers without being marks or digits. -/
def otherContinue : Ranges :=
  [ (0xb7, 0xb7), (0x387, 0x387), (0x1369, 0x1371), (0x19da, 0x19da) ]

def identifierStart : CharSet :=
  (ranges (letters ++ letterNumberRanges ++ otherStart)).diff patternSyntax

def identifierContinue : CharSet :=
  identifierStart.union ((ranges (nonspacingRanges ++ spacingRanges ++ decimalRanges ++
    connectorRanges ++ otherContinue)).diff patternSyntax)

/-- Characters whose plain forms do not go on with identifiers. -/
def unstableContinue : Ranges :=
  [ (0x37a, 0x37a), (0x309b, 0x309c), (0xfc5e, 0xfc63), (0xfdfa, 0xfdfb), (0xfe70, 0xfe70),
    (0xfe72, 0xfe72), (0xfe74, 0xfe74), (0xfe76, 0xfe76), (0xfe78, 0xfe78), (0xfe7a, 0xfe7a),
    (0xfe7c, 0xfe7c), (0xfe7e, 0xfe7e) ]

/-- Characters whose plain forms do not begin identifiers, though they may go on with them. -/
def unstableStart : Ranges :=
  [ (0xe33, 0xe33), (0xeb3, 0xeb3), (0xff9e, 0xff9f) ]

/-! ## Characters that are not shown -/

/-- Code points that are no characters and never will be: thirty-two in a row, and the last two of
each plane. -/
def noncharacters : Ranges :=
  (0xfdd0, 0xfdef) :: (List.range 17).map fun plane =>
    (0x10000 * plane + 0xfffe, 0x10000 * plane + 0xffff)

/-- Format characters that are shown: marks around other text and the joiners of hieroglyphs. -/
def shownFormat : Ranges :=
  (0xfff9, 0xfffb) :: (0x13430, 0x13455) :: numberSignRanges

def ignorable : CharSet :=
  (ranges (ignorableRanges ++ formatRanges ++ variationRanges)).diff
    (ranges (blankRanges ++ shownFormat))

/-- What may stand between letters without ending a word. -/
def midLetters : Ranges :=
  [ (0x3a, 0x3a), (0xb7, 0xb7), (0x387, 0x387), (0x55f, 0x55f), (0x5f4, 0x5f4), (0x2027, 0x2027),
    (0xfe13, 0xfe13), (0xfe55, 0xfe55), (0xff1a, 0xff1a) ]

/-- What may stand between letters or between digits. -/
def midBoth : Ranges :=
  [ (0x2e, 0x2e), (0x2018, 0x2019), (0x2024, 0x2024), (0xfe52, 0xfe52), (0xff07, 0xff07),
    (0xff0e, 0xff0e) ]

def caseIgnorable : CharSet :=
  ranges (nonspacingRanges ++ enclosingRanges ++ formatRanges ++ modifierRanges ++
    modifierSymbolRanges ++ midLetters ++ midBoth ++ [(0x27, 0x27)])

def hexDigit : Ranges := [(0x30, 0x39), (0x41, 0x46), (0x61, 0x66)]

def wideHexDigit : Ranges := [(0xff10, 0xff19), (0xff21, 0xff26), (0xff41, 0xff46)]

/-- What stands alone in a text, or with others behind it. -/
def graphemeBase : CharSet :=
  assigned.diff ((ranges (controlRanges ++ formatRanges ++ privateUseRanges ++ lineRanges ++
    paragraphRanges)).union extending)

/-! ## Traits by name -/

/-- The traits with their names, the long one first. -/
def traits : List (List String × CharSet) :=
  [ (["asciihexdigit", "ahex"], ranges hexDigit),
    (["alphabetic", "alpha"], alphabetic),
    (["bidicontrol", "bidic"], ranges directionRanges),
    (["bidimirrored", "bidim"], ranges mirroredRanges),
    (["caseignorable", "ci"], caseIgnorable),
    (["cased"], cased),
    (["changeswhencasefolded", "cwcf"], changesFolded),
    (["changeswhencasemapped", "cwcm"], changesMapped),
    (["changeswhenlowercased", "cwl"], changesLowered),
    (["changeswhentitlecased", "cwt"], changesTitled),
    (["changeswhenuppercased", "cwu"], changesRaised),
    (["dash"], ranges dashSignRanges),
    (["defaultignorablecodepoint", "di"], ignorable),
    (["deprecated", "dep"], ranges deprecatedRanges),
    (["diacritic", "dia"], ranges diacriticRanges),
    (["emoji"], ranges emojiRanges),
    (["emojicomponent", "ecomp"], ranges emojiComponentRanges),
    (["emojimodifier", "emod"], ranges emojiModifierRanges),
    (["emojimodifierbase", "ebase"], ranges emojiBaseRanges),
    (["emojipresentation", "epres"], ranges emojiPresentationRanges),
    (["extendedpictographic", "extpict"], ranges pictographicRanges),
    (["extender", "ext"], ranges extenderRanges),
    (["graphemebase", "grbase"], graphemeBase),
    (["graphemeextend", "grext"], extending),
    (["graphemelink", "grlink"], ranges linkRanges),
    (["hexdigit", "hex"], ranges (hexDigit ++ wideHexDigit)),
    (["hyphen"], ranges hyphenRanges),
    (["idsbinaryoperator", "idsb"], ranges binaryDescriptionRanges),
    (["idstrinaryoperator", "idst"], ranges ternaryDescriptionRanges),
    (["idcontinue", "idc"], identifierContinue),
    (["idstart", "ids"], identifierStart),
    (["ideographic", "ideo"], ranges ideographRanges),
    (["joincontrol", "joinc"], ranges [(0x200c, 0x200d)]),
    (["logicalorderexception", "loe"], ranges logicalExceptionRanges),
    (["lowercase", "lower"], lowercase),
    (["math"], ranges (mathRanges ++ otherMathRanges)),
    (["noncharactercodepoint", "nchar"], ranges noncharacters),
    (["otheralphabetic", "oalpha"], alphabetic.diff (ranges (letters ++ letterNumberRanges))),
    (["otherdefaultignorablecodepoint", "odi"], ranges ignorableRanges),
    (["othergraphemeextend", "ogrext"], ranges spacedExtendingRanges),
    (["otheridcontinue", "oidc"], ranges otherContinue),
    (["otheridstart", "oids"], ranges otherStart),
    (["otherlowercase", "olower"], lowercase.diff (ranges lowerRanges)),
    (["othermath", "omath"], ranges otherMathRanges),
    (["otheruppercase", "oupper"], uppercase.diff (ranges upperRanges)),
    (["patternsyntax", "patsyn"], ranges patternSyntaxRanges),
    (["patternwhitespace", "patws"], ranges patternBlankRanges),
    (["prependedconcatenationmark", "pcm"], ranges numberSignRanges),
    (["quotationmark", "qmark"], ranges quotationRanges),
    (["radical"], ranges radicalRanges),
    (["regionalindicator", "ri"], ranges regionalIndicatorRanges),
    (["sentenceterminal", "sterm"], ranges sentenceEndRanges),
    (["softdotted", "sd"], ranges softDottedRanges),
    (["terminalpunctuation", "term"], ranges terminalRanges),
    (["unifiedideograph", "uideo"], ranges unifiedIdeographRanges),
    (["uppercase", "upper"], uppercase),
    (["variationselector", "vs"], ranges variationRanges),
    (["whitespace", "wspace", "space"], .blank),
    (["xidcontinue", "xidc"], identifierContinue.diff (ranges unstableContinue)),
    (["xidstart", "xids"],
      identifierStart.diff (ranges (unstableContinue ++ unstableStart))) ]

end Property
end Regex
end LeftRec
