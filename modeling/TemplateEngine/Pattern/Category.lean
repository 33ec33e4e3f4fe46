/-
  TemplateEngine.Pattern.Category — general categories by their names.

  A group of categories is the union of its members, and what has no category is unassigned.
  Names stand in lower case without separators.
-/

import TemplateEngine.Pattern.CharSet

namespace TemplateEngine.Pattern

open CharSet Text.Category

def casedLetter : CharSet :=
  unionOf [ranges uppercaseLetter, ranges lowercaseLetter, ranges titlecaseLetter]

def punctuation : CharSet :=
  unionOf [ranges connectorPunctuation, ranges dashPunctuation, ranges openPunctuation,
    ranges closePunctuation, ranges initialPunctuation, ranges finalPunctuation,
    ranges otherPunctuation]

def symbolSet : CharSet :=
  unionOf [ranges mathSymbol, ranges currencySymbol, ranges modifierSymbol, ranges otherSymbol]

def separator : CharSet :=
  unionOf [ranges spaceSeparator, ranges lineSeparator, ranges paragraphSeparator]

def assigned : CharSet :=
  unionOf [letter, mark, number, punctuation, symbolSet, separator, ranges control, ranges format,
    ranges privateUse]

def unassigned : CharSet := compl assigned

def categories : List (List String × CharSet) :=
  [(["l", "letter"], letter), (["lu", "uppercaseletter"], ranges uppercaseLetter),
    (["ll", "lowercaseletter"], ranges lowercaseLetter),
    (["lt", "titlecaseletter"], ranges titlecaseLetter), (["lc", "casedletter"], casedLetter),
    (["lm", "modifierletter"], ranges modifierLetter), (["lo", "otherletter"], ranges otherLetter),
    (["m", "mark", "combiningmark"], mark), (["mn", "nonspacingmark"], ranges nonspacingMark),
    (["mc", "spacingmark"], ranges spacingMark), (["me", "enclosingmark"], ranges enclosingMark),
    (["n", "number"], number), (["nd", "decimalnumber", "digit"], ranges decimalNumber),
    (["nl", "letternumber"], ranges letterNumber), (["no", "othernumber"], ranges otherNumber),
    (["p", "punctuation", "punct"], punctuation),
    (["pc", "connectorpunctuation"], ranges connectorPunctuation),
    (["pd", "dashpunctuation"], ranges dashPunctuation),
    (["ps", "openpunctuation"], ranges openPunctuation),
    (["pe", "closepunctuation"], ranges closePunctuation),
    (["pi", "initialpunctuation"], ranges initialPunctuation),
    (["pf", "finalpunctuation"], ranges finalPunctuation),
    (["po", "otherpunctuation"], ranges otherPunctuation), (["s", "symbol"], symbolSet),
    (["sm", "mathsymbol"], ranges mathSymbol), (["sc", "currencysymbol"], ranges currencySymbol),
    (["sk", "modifiersymbol"], ranges modifierSymbol), (["so", "othersymbol"], ranges otherSymbol),
    (["z", "separator"], separator), (["zs", "spaceseparator"], ranges spaceSeparator),
    (["zl", "lineseparator"], ranges lineSeparator),
    (["zp", "paragraphseparator"], ranges paragraphSeparator),
    (["c", "other"], unionOf [ranges control, ranges format, ranges privateUse, unassigned]),
    (["cc", "control", "cntrl"], ranges control), (["cf", "format"], ranges format),
    (["co", "privateuse"], ranges privateUse), (["cn", "unassigned"], unassigned),
    (["any"], all), (["assigned"], assigned), (["ascii"], ascii)]

end TemplateEngine.Pattern
