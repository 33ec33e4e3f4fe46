/-
  TemplateEngine.Scan.Word — identifiers, keywords and fixed marks.

  A word is a letter followed by letters and digits, where `_` and `$` are letters. The
  keywords are reserved: none of them is an identifier.
-/

import TemplateEngine.Scan.Spacing
import TemplateEngine.Text.Extent

namespace TemplateEngine.Scan

def keywords : List String :=
  ["if", "elseif", "else", "endif", "for", "in", "endfor", "block", "endblock", "extends",
    "include", "set", "verbatim", "endverbatim", "filter", "true", "false", "null", "and", "or",
    "not", "matches", "startsWith", "endsWith"]

def isKeyword (word : String) : Bool := keywords.contains word

def isLetter (c : Char) : Bool :=
  ('a' ≤ c && c ≤ 'z') || ('A' ≤ c && c ≤ 'Z') || c == '_' || c == '$'

def isDigit (c : Char) : Bool := '0' ≤ c && c ≤ '9'

def isLetterOrDigit (c : Char) : Bool := isLetter c || isDigit c

/-- Reads a fixed mark. -/
def mark? (text : String) (s : List Char) : Option (List Char) := Text.after? text.toList s

/-- Reads a fixed mark and the spacing after it. -/
def symbol? (text : String) (s : List Char) : Option (List Char) := (mark? text s).map skipSpacing

/-- What follows `word` when it stands here as a word of its own. -/
def wordEnd? (word : String) (s : List Char) : Option (List Char) :=
  match mark? word s with
  | some rest => if rest.head?.any isLetterOrDigit then none else some rest
  | none => none

/-- Reads a keyword and the spacing after it. -/
def keyword? (word : String) (s : List Char) : Option (List Char) :=
  (wordEnd? word s).map skipSpacing

/-- Reads a word that is no keyword. -/
def identifier? (s : List Char) : Option (String × List Char) :=
  let word := String.ofList (s.takeWhile isLetterOrDigit)
  if s.head?.any isLetter && !isKeyword word then some (word, s.dropWhile isLetterOrDigit)
  else none

/-- The letters and digits that follow the mark opening a statement tag, if there are any. -/
def tagWord? (s : List Char) : Option String :=
  match mark? "\x7b%" s with
  | some rest =>
    let word := (skipSpacing rest).takeWhile isLetterOrDigit
    if word.isEmpty then none else some (String.ofList word)
  | none => none

end TemplateEngine.Scan
