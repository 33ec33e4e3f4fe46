/-
  TemplateEngine.Pattern.Break — what part a character plays in the rules that break a text
  into graphemes, words and sentences.

  The classes of one kind of break have no character in common; what is in none of them
  plays no part. Names stand in lower case without separators.
-/

import TemplateEngine.Pattern.BinaryProperty
import TemplateEngine.Pattern.Script

namespace TemplateEngine.Pattern

open CharSet Text.Category Text.Property

/-- One character by its code. -/
def code (n : Nat) : CharSet := ranges [(n, n)]

def carriageReturn : CharSet := code 0xd

def lineFeed : CharSet := code 0xa

def zeroWidthJoiner : CharSet := code 0x200d

/-! ## Graphemes -/

/-- Syllables of Hangul: every 28th is open, the ones behind it close with a consonant. -/
def openSyllable : CharSet :=
  ranges ((List.range 399).map fun i => (0xac00 + 28 * i, 0xac00 + 28 * i))

def graphemeControl : CharSet :=
  diff
    (unionOf [ranges lineSeparator, ranges paragraphSeparator, ranges control,
      inter unassigned defaultIgnorable, ranges format])
    (unionOf [carriageReturn, lineFeed, ranges [(0x200c, 0x200d)],
      ranges prependedConcatenationMark, graphemeExtend])

/-- Marks beside their letter, and two vowels that are written like them. -/
def graphemeSpacingMark : CharSet :=
  diff (unionOf [ranges spacingMark, code 0xe33, code 0xeb3])
    (union graphemeExtend
      (ranges [(0x102b, 0x102c), (0x1038, 0x1038), (0x1062, 0x1064), (0x1067, 0x106d),
        (0x1083, 0x1083), (0x1087, 0x108c), (0x108f, 0x108f), (0x109a, 0x109c), (0x1a61, 0x1a61),
        (0x1a63, 0x1a64), (0xaa7b, 0xaa7b), (0xaa7d, 0xaa7d), (0x11720, 0x11721)]))

def graphemePrepend : CharSet :=
  union (ranges prependedConcatenationMark)
    (ranges [(0xd4e, 0xd4e), (0x111c2, 0x111c3), (0x113d1, 0x113d1), (0x1193f, 0x1193f),
      (0x11941, 0x11941), (0x11a3a, 0x11a3a), (0x11a84, 0x11a89), (0x11d46, 0x11d46),
      (0x11f02, 0x11f02)])

def graphemeBreaks : List (List String × CharSet) :=
  [(["cn", "control"], graphemeControl), (["cr"], carriageReturn), (["lf"], lineFeed),
    (["ex", "extend"], union graphemeExtend (ranges emojiModifier)),
    (["pp", "prepend"], graphemePrepend), (["sm", "spacingmark"], graphemeSpacingMark),
    (["l"], ranges [(0x1100, 0x115f), (0xa960, 0xa97c)]),
    (["v"],
      ranges [(0x1160, 0x11a7), (0xd7b0, 0xd7c6), (0x16d63, 0x16d63), (0x16d67, 0x16d6a)]),
    (["t"], ranges [(0x11a8, 0x11ff), (0xd7cb, 0xd7fb)]), (["lv"], openSyllable),
    (["lvt"], diff (ranges [(0xac00, 0xd7a3)]) openSyllable),
    (["ri", "regionalindicator"], ranges regionalIndicator), (["zwj"], zeroWidthJoiner)]

/-! ## Words -/

/-- The set of a script that is known to exist. -/
def scriptSet (name : String) : CharSet := (script? name).getD empty

def markOrExtend : CharSet := union graphemeExtend (ranges spacingMark)

def wordExtend : CharSet := diff (union markOrExtend (ranges emojiModifier)) zeroWidthJoiner

def wordFormat : CharSet :=
  diff (ranges format)
    (unionOf [ranges [(0x200b, 0x200d)], ranges prependedConcatenationMark, graphemeExtend])

def wordKatakana : CharSet :=
  union (scriptSet "katakana")
    (ranges [(0x3031, 0x3035), (0x309b, 0x309c), (0x30a0, 0x30a0), (0x30fc, 0x30fc),
      (0xff70, 0xff70)])

def wordNumeric : CharSet :=
  union (ranges decimalNumber)
    (ranges [(0x600, 0x605), (0x66b, 0x66b), (0x6dd, 0x6dd), (0x890, 0x891), (0x8e2, 0x8e2),
      (0x19da, 0x19da), (0x110bd, 0x110bd), (0x110cd, 0x110cd)])

def hebrewLetter : CharSet := inter (scriptSet "hebrew") (ranges otherLetter)

/-- Scripts whose words cannot be told by their characters. -/
def unspacedScripts : CharSet :=
  unionOf (["thai", "lao", "mymr", "khmr", "tale", "talu", "lana", "tavt", "ahom"].map scriptSet)

/-- Letters of scripts that put spaces between words, and a few signs that are used like
    letters. -/
def wordLetter : CharSet :=
  diff
    (union alphabetic
      (ranges [(0x2c2, 0x2c5), (0x2d2, 0x2d7), (0x2de, 0x2df), (0x2e5, 0x2eb), (0x2ed, 0x2ed),
        (0x2ef, 0x2ff), (0x55a, 0x55c), (0x55e, 0x55e), (0x58a, 0x58a), (0x5f3, 0x5f3),
        (0x70f, 0x70f), (0xa708, 0xa716), (0xa720, 0xa721), (0xa789, 0xa78a), (0xab5b, 0xab5b)]))
    (unionOf [ranges ideographic, wordKatakana, scriptSet "hiragana", wordExtend, hebrewLetter,
      unspacedScripts])

def wordBreaks : List (List String × CharSet) :=
  [(["le", "aletter"], wordLetter), (["cr"], carriageReturn), (["lf"], lineFeed),
    (["nl", "newline"], ranges [(0xb, 0xc), (0x85, 0x85), (0x2028, 0x2029)]),
    (["dq", "doublequote"], code 0x22), (["sq", "singlequote"], code 0x27),
    (["extend"], wordExtend), (["fo", "format"], wordFormat),
    (["ex", "extendnumlet"], union (ranges connectorPunctuation) (code 0x202f)),
    (["hl", "hebrewletter"], hebrewLetter), (["ka", "katakana"], wordKatakana),
    (["ml", "midletter"],
      ranges [(0x3a, 0x3a), (0xb7, 0xb7), (0x387, 0x387), (0x55f, 0x55f), (0x5f4, 0x5f4),
        (0x2027, 0x2027), (0xfe13, 0xfe13), (0xfe55, 0xfe55), (0xff1a, 0xff1a)]),
    (["mn", "midnum"],
      ranges [(0x2c, 0x2c), (0x3b, 0x3b), (0x37e, 0x37e), (0x589, 0x589), (0x60c, 0x60d),
        (0x66c, 0x66c), (0x7f8, 0x7f8), (0x2044, 0x2044), (0xfe50, 0xfe50), (0xfe54, 0xfe54),
        (0xff0c, 0xff0c), (0xff1b, 0xff1b)]),
    (["mb", "midnumlet"],
      ranges [(0x2e, 0x2e), (0x2018, 0x2019), (0x2024, 0x2024), (0xfe52, 0xfe52),
        (0xff07, 0xff07), (0xff0e, 0xff0e)]),
    (["nu", "numeric"], wordNumeric), (["ri", "regionalindicator"], ranges regionalIndicator),
    (["wsegspace"],
      diff (ranges spaceSeparator) (ranges [(0xa0, 0xa0), (0x2007, 0x2007), (0x202f, 0x202f)])),
    (["zwj"], zeroWidthJoiner)]

/-! ## Sentences -/

/-- Full stops, which may also stand behind an abbreviation. -/
def sentenceStop : CharSet :=
  ranges [(0x2e, 0x2e), (0x2024, 0x2024), (0xfe52, 0xfe52), (0xff0e, 0xff0e)]

def sentenceSeparator : CharSet := ranges [(0x85, 0x85), (0x2028, 0x2029)]

/-- Small letters, without those of Georgian, which starts sentences with them. -/
def sentenceLower : CharSet :=
  diff lowercase (union graphemeExtend (ranges [(0x10d0, 0x10fa), (0x10fd, 0x10ff)]))

def sentenceUpper : CharSet :=
  diff (union uppercase (ranges titlecaseLetter)) (ranges [(0x1c90, 0x1cba), (0x1cbd, 0x1cbf)])

def sentenceLetter : CharSet :=
  diff (union alphabetic (code 0x5f3)) (unionOf [sentenceLower, sentenceUpper, markOrExtend])

/-- Brackets and quotation marks. -/
def sentenceClose : CharSet :=
  unionOf [ranges openPunctuation, ranges closePunctuation, ranges initialPunctuation,
    ranges finalPunctuation,
    ranges [(0x22, 0x22), (0x27, 0x27), (0x275b, 0x2760), (0x2e00, 0x2e01), (0x2e06, 0x2e08),
      (0x2e0b, 0x2e0b), (0x1f676, 0x1f678)]]

def sentenceBreaks : List (List String × CharSet) :=
  [(["at", "aterm"], sentenceStop), (["cr"], carriageReturn), (["lf"], lineFeed),
    (["cl", "close"], sentenceClose), (["ex", "extend"], union markOrExtend zeroWidthJoiner),
    (["fo", "format"], union wordFormat (ranges [(0x70f, 0x70f), (0x200b, 0x200b)])),
    (["lo", "lower"], sentenceLower), (["up", "upper"], sentenceUpper),
    (["le", "oletter"], sentenceLetter), (["nu", "numeric"], union wordNumeric (code 0x66c)),
    (["sc", "scontinue"],
      ranges [(0x2c, 0x2d), (0x3a, 0x3b), (0x37e, 0x37e), (0x55d, 0x55d), (0x60c, 0x60d),
        (0x7f8, 0x7f8), (0x1802, 0x1802), (0x1808, 0x1808), (0x2013, 0x2014), (0x3001, 0x3001),
        (0xfe10, 0xfe11), (0xfe13, 0xfe14), (0xfe31, 0xfe32), (0xfe50, 0xfe51),
        (0xfe54, 0xfe55), (0xfe58, 0xfe58), (0xfe63, 0xfe63), (0xff0c, 0xff0d),
        (0xff1a, 0xff1b), (0xff64, 0xff64)]),
    (["se", "sep"], sentenceSeparator),
    (["sp"], diff space (unionOf [carriageReturn, lineFeed, sentenceSeparator])),
    (["st", "sterm"], diff (ranges sentenceTerminal) sentenceStop)]

end TemplateEngine.Pattern
