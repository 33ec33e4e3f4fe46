/-
  TemplateEngine.Pattern.Basic — regular expressions over characters.

  A look tests the characters around a place and takes none of them. Which of several ways
  to match comes first plays no part, so nothing here is greedy or reluctant.
-/

import TemplateEngine.Pattern.CharSet

namespace TemplateEngine.Pattern

inductive Look where
  | textStart
  | textEnd
  | lineStart
  | lineEnd
  /-- Ends of lines that may end with a carriage return, a line feed, or both. -/
  | anyLineStart
  | anyLineEnd
  | wordBoundary (unicode : Bool)
  | notWordBoundary (unicode : Bool)
  | wordStart (unicode : Bool)
  | wordEnd (unicode : Bool)
  | wordStartHalf (unicode : Bool)
  | wordEndHalf (unicode : Bool)
  deriving DecidableEq, Repr

inductive Regex where
  | empty
  | char (s : CharSet)
  | look (l : Look)
  /-- The same with its ends marked. -/
  | group (r : Regex)
  | seq (a b : Regex)
  | alt (a b : Regex)
  /-- Between `min` and `max` copies, any number from `min` on without a `max`. -/
  | copies (r : Regex) (min : Nat) (max : Option Nat)
  deriving DecidableEq, Repr

namespace Regex

def seqOf : List Regex → Regex
  | [] => empty
  | [r] => r
  | r :: rest => seq r (seqOf rest)

def altOf : List Regex → Regex
  | [] => empty
  | [r] => r
  | r :: rest => alt r (altOf rest)

/-- Whether it can match no character at all. -/
def takesNothing : Regex → Bool
  | empty | look _ => true
  | char _ => false
  | group r => takesNothing r
  | seq a b | alt a b => takesNothing a && takesNothing b
  | copies r _ max => takesNothing r || max == some 0

/-- Between `min` and `max` copies. Of an expression that takes nothing one copy is as good
    as many. -/
def repeated (r : Regex) (min : Nat) (max : Option Nat) : Regex :=
  if takesNothing r then copies r (Nat.min min 1) (some ((max.map (Nat.min · 1)).getD 1))
  else copies r min max

end Regex

end TemplateEngine.Pattern
