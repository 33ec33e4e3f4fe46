/-
  TemplateEngine.Pattern.BinaryProperty — yes-or-no properties of characters by their names.

  Most are tables. The others follow from tables and general categories, by the rules that
  Unicode gives for them, with the exceptions it lists. Names stand in lower case without
  separators.
-/

import TemplateEngine.Pattern.Category

namespace TemplateEngine.Pattern

open CharSet Text.Category Text.Property

/-! ## Case -/

def lowercase : CharSet := union (ranges lowercaseLetter) (ranges otherLowercase)

def uppercase : CharSet := union (ranges uppercaseLetter) (ranges otherUppercase)

def cased : CharSet := unionOf [lowercase, uppercase, ranges titlecaseLetter]

/-- Marks, formats, and signs that stand inside words. -/
def caseIgnorable : CharSet :=
  unionOf [ranges nonspacingMark, ranges enclosingMark, ranges format, ranges modifierLetter,
    ranges modifierSymbol,
    ranges [(0x27, 0x27), (0x2e, 0x2e), (0x3a, 0x3a), (0xb7, 0xb7), (0x387, 0x387),
      (0x55f, 0x55f), (0x5f4, 0x5f4), (0x2018, 0x2019), (0x2024, 0x2024), (0x2027, 0x2027),
      (0xfe13, 0xfe13), (0xfe52, 0xfe52), (0xfe55, 0xfe55), (0xff07, 0xff07), (0xff0e, 0xff0e),
      (0xff1a, 0xff1a)]]

/-- Characters that have a form in another case. -/
def casemapped : CharSet := diff cased (ranges unmappedCased)

def changesLowercased : CharSet :=
  inter casemapped (union uppercase (ranges titlecaseLetter))

def changesUppercased : CharSet := diff casemapped uppercase

/-- A character in title case keeps it, and so do Georgian letters, which start no word in
    upper case; of two letters in one, the upper-case form has a title case of its own. -/
def changesTitlecased : CharSet :=
  union
    (diff changesUppercased
      (ranges [(0x1c5, 0x1c5), (0x1c8, 0x1c8), (0x1cb, 0x1cb), (0x1f2, 0x1f2), (0x10d0, 0x10fa),
        (0x10fd, 0x10ff), (0x1f88, 0x1f8f), (0x1f98, 0x1f9f), (0x1fa8, 0x1faf), (0x1fbc, 0x1fbc),
        (0x1fcc, 0x1fcc), (0x1ffc, 0x1ffc)]))
    (ranges [(0x1c4, 0x1c4), (0x1c7, 0x1c7), (0x1ca, 0x1ca), (0x1f1, 0x1f1)])

/-- Folding is taking the lower case, except that Cherokee folds the other way and that some
    letters in lower case fold to others. -/
def changesCasefolded : CharSet :=
  union (diff changesLowercased (ranges [(0x13a0, 0x13f5)]))
    (ranges [(0xb5, 0xb5), (0xdf, 0xdf), (0x149, 0x149), (0x17f, 0x17f), (0x345, 0x345),
      (0x3c2, 0x3c2), (0x3d0, 0x3d1), (0x3d5, 0x3d6), (0x3f0, 0x3f1), (0x3f5, 0x3f5),
      (0x587, 0x587), (0x13f8, 0x13fd), (0x1c80, 0x1c88), (0x1e9a, 0x1e9b), (0x1f80, 0x1f87),
      (0x1f90, 0x1f97), (0x1fa0, 0x1fa7), (0x1fb2, 0x1fb4), (0x1fb7, 0x1fb7), (0x1fc2, 0x1fc4),
      (0x1fc7, 0x1fc7), (0x1ff2, 0x1ff4), (0x1ff7, 0x1ff7), (0xab70, 0xabbf), (0xfb00, 0xfb06),
      (0xfb13, 0xfb17)])

/-! ## Graphemes -/

def graphemeExtend : CharSet :=
  unionOf [ranges nonspacingMark, ranges enclosingMark, ranges otherGraphemeExtend]

def graphemeBase : CharSet :=
  diff assigned
    (unionOf [ranges control, ranges format, ranges privateUse, ranges lineSeparator,
      ranges paragraphSeparator, graphemeExtend])

/-- Characters that show nothing where they are not known. -/
def defaultIgnorable : CharSet :=
  diff (unionOf [ranges otherDefaultIgnorableCodePoint, ranges format, ranges variationSelector])
    (unionOf [space, ranges [(0xfff9, 0xfffb), (0x13430, 0x1343f)],
      ranges prependedConcatenationMark])

/-! ## Names -/

/-- Characters that stand for themselves in the languages of patterns. -/
def patternOwned : CharSet := union (ranges patternSyntax) (ranges patternWhiteSpace)

/-- Characters a name can start with. -/
def idStart : CharSet :=
  diff (unionOf [letter, ranges letterNumber, ranges otherIdStart]) patternOwned

/-- Characters a name can go on with. -/
def idContinue : CharSet :=
  diff
    (unionOf [idStart, ranges nonspacingMark, ranges spacingMark, ranges decimalNumber,
      ranges connectorPunctuation, ranges otherIdContinue])
    patternOwned

/-- Characters that some normal form of text would take out of a name. -/
def unsettled : CharSet :=
  ranges [(0x37a, 0x37a), (0x309b, 0x309c), (0xfc5e, 0xfc63), (0xfdfa, 0xfdfb), (0xfe70, 0xfe70),
    (0xfe72, 0xfe72), (0xfe74, 0xfe74), (0xfe76, 0xfe76), (0xfe78, 0xfe78), (0xfe7a, 0xfe7a),
    (0xfe7c, 0xfe7c), (0xfe7e, 0xfe7e)]

/-- Characters that some normal form of text would take from the start of a name. -/
def unsettledStart : CharSet :=
  union unsettled (ranges [(0xe33, 0xe33), (0xeb3, 0xeb3), (0xff9e, 0xff9f)])

/-! ## All of them -/

def binaryProperties : List (List String × CharSet) :=
  [(["alpha", "alphabetic"], alphabetic), (["lower", "lowercase"], lowercase),
    (["upper", "uppercase"], uppercase), (["cased"], cased),
    (["ci", "caseignorable"], caseIgnorable), (["cwcm", "changeswhencasemapped"], casemapped),
    (["cwl", "changeswhenlowercased"], changesLowercased),
    (["cwu", "changeswhenuppercased"], changesUppercased),
    (["cwt", "changeswhentitlecased"], changesTitlecased),
    (["cwcf", "changeswhencasefolded"], changesCasefolded),
    (["grext", "graphemeextend"], graphemeExtend), (["grbase", "graphemebase"], graphemeBase),
    (["grlink", "graphemelink"], ranges graphemeLink),
    (["di", "defaultignorablecodepoint"], defaultIgnorable),
    (["ids", "idstart"], idStart), (["idc", "idcontinue"], idContinue),
    (["xids", "xidstart"], diff idStart unsettledStart),
    (["xidc", "xidcontinue"], diff idContinue unsettled),
    (["idcompatmathstart"], ranges idCompatMathStart),
    (["idcompatmathcontinue"], ranges idCompatMathContinue),
    (["math"], union (ranges mathSymbol) (ranges otherMath)),
    (["wspace", "whitespace", "space"], space),
    (["ahex", "asciihexdigit"], ranges asciiHexDigit), (["hex", "hexdigit"], ranges hexDigit),
    (["bidic", "bidicontrol"], ranges bidiControl),
    (["bidim", "bidimirrored"], ranges bidiMirrored), (["dash"], ranges dash),
    (["hyphen"], ranges hyphen), (["dep", "deprecated"], ranges deprecated),
    (["dia", "diacritic"], ranges diacritic), (["ext", "extender"], ranges extender),
    (["emoji"], ranges emoji), (["ecomp", "emojicomponent"], ranges emojiComponent),
    (["emod", "emojimodifier"], ranges emojiModifier),
    (["ebase", "emojimodifierbase"], ranges emojiModifierBase),
    (["epres", "emojipresentation"], ranges emojiPresentation),
    (["extpict", "extendedpictographic"], ranges extendedPictographic),
    (["idsb", "idsbinaryoperator"], ranges idsBinaryOperator),
    (["idst", "idstrinaryoperator"], ranges idsTrinaryOperator),
    (["idsu", "idsunaryoperator"], ranges idsUnaryOperator),
    (["ideo", "ideographic"], ranges ideographic),
    (["uideo", "unifiedideograph"], ranges unifiedIdeograph), (["radical"], ranges radical),
    (["joinc", "joincontrol"], ranges joinControl),
    (["loe", "logicalorderexception"], ranges logicalOrderException),
    (["mcm", "modifiercombiningmark"], ranges modifierCombiningMark),
    (["nchar", "noncharactercodepoint"], ranges noncharacterCodePoint),
    (["patsyn", "patternsyntax"], ranges patternSyntax),
    (["patws", "patternwhitespace"], ranges patternWhiteSpace),
    (["pcm", "prependedconcatenationmark"], ranges prependedConcatenationMark),
    (["qmark", "quotationmark"], ranges quotationMark),
    (["ri", "regionalindicator"], ranges regionalIndicator),
    (["sd", "softdotted"], ranges softDotted),
    (["sterm", "sentenceterminal"], ranges sentenceTerminal),
    (["term", "terminalpunctuation"], ranges terminalPunctuation),
    (["vs", "variationselector"], ranges variationSelector),
    (["oalpha", "otheralphabetic"], ranges otherAlphabetic),
    (["odi", "otherdefaultignorablecodepoint"], ranges otherDefaultIgnorableCodePoint),
    (["ogrext", "othergraphemeextend"], ranges otherGraphemeExtend),
    (["oidc", "otheridcontinue"], ranges otherIdContinue),
    (["oids", "otheridstart"], ranges otherIdStart),
    (["olower", "otherlowercase"], ranges otherLowercase),
    (["omath", "othermath"], ranges otherMath),
    (["oupper", "otheruppercase"], ranges otherUppercase)]

end TemplateEngine.Pattern
