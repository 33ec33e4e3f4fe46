/-
  TemplateEngine.Pattern.CharSet — sets of characters, built up from ranges of codes.

  A set closed under case holds every character that differs from one of its members by
  case only: by Unicode, or for ASCII letters alone.
-/

import TemplateEngine.Text.Blank
import TemplateEngine.Text.CategoryTable
import TemplateEngine.Text.FoldTable
import TemplateEngine.Text.PropertyTable

namespace TemplateEngine.Pattern

inductive CharSet where
  | ranges (rs : List (Nat × Nat))
  | union (a b : CharSet)
  | inter (a b : CharSet)
  | diff (a b : CharSet)
  | symmDiff (a b : CharSet)
  | compl (a : CharSet)
  | anyCase (unicode : Bool) (a : CharSet)
  deriving DecidableEq, Repr

/-- The code of the character a code folds to. -/
def foldCode (n : Nat) : Nat :=
  match Text.foldRuns.find? fun r => r.1 ≤ n && n ≤ r.2.1 && (n - r.1) % r.2.2.1 == 0 with
  | some r => ((n : Int) + r.2.2.2).toNat
  | none => n

/-- The codes of all characters that fold to `n`, itself included. -/
def unfoldCodes (n : Nat) : List Nat :=
  n :: Text.foldRuns.filterMap fun r =>
    let m := ((n : Int) - r.2.2.2).toNat
    if r.1 ≤ m && m ≤ r.2.1 && (m - r.1) % r.2.2.1 == 0 then some m else none

/-- The codes that differ from `n` by case only, itself included. -/
def caseCodes (unicode : Bool) (n : Nat) : List Nat :=
  if unicode then unfoldCodes (foldCode n)
  else if 65 ≤ n && n ≤ 90 then [n, n + 32]
  else if 97 ≤ n && n ≤ 122 then [n, n - 32]
  else [n]

namespace CharSet

/-- Whether the set has the character with a given code. -/
def has : CharSet → Nat → Bool
  | ranges rs, n => rs.any fun r => r.1 ≤ n && n ≤ r.2
  | union a b, n => has a n || has b n
  | inter a b, n => has a n && has b n
  | diff a b, n => has a n && !has b n
  | symmDiff a b, n => has a n != has b n
  | compl a, n => !has a n
  | anyCase unicode a, n => (caseCodes unicode n).any fun m => has a m

def empty : CharSet := ranges []

def single (c : Char) : CharSet := ranges [(c.toNat, c.toNat)]

def all : CharSet := ranges [(0, 0x10ffff)]

def ascii : CharSet := ranges [(0, 0x7f)]

def unionOf (sets : List CharSet) : CharSet :=
  match sets with
  | [] => empty
  | s :: rest => rest.foldl union s

open Text.Category

def letter : CharSet :=
  unionOf [ranges uppercaseLetter, ranges lowercaseLetter, ranges titlecaseLetter,
    ranges modifierLetter, ranges otherLetter]

def mark : CharSet := unionOf [ranges nonspacingMark, ranges spacingMark, ranges enclosingMark]

def number : CharSet := unionOf [ranges decimalNumber, ranges letterNumber, ranges otherNumber]

def alphabetic : CharSet := 
  unionOf [letter, ranges letterNumber, ranges Text.Property.otherAlphabetic]

def digit : CharSet := ranges decimalNumber

def space : CharSet := ranges Text.blankRanges

/-- Letters, marks, digits, connecting punctuation, and the two joiners. -/
def word : CharSet :=
  unionOf [alphabetic, mark, digit, ranges connectorPunctuation, ranges [(0x200c, 0x200d)]]

def asciiDigit : CharSet := ranges [(48, 57)]

def asciiSpace : CharSet := ranges [(9, 13), (32, 32)]

def asciiWord : CharSet := ranges [(48, 57), (65, 90), (95, 95), (97, 122)]

/-- The ASCII classes that are named in brackets. -/
def named : List (String × CharSet) :=
  [("alnum", ranges [(48, 57), (65, 90), (97, 122)]), ("alpha", ranges [(65, 90), (97, 122)]),
    ("ascii", ascii), ("blank", ranges [(9, 9), (32, 32)]), ("cntrl", ranges [(0, 31), (127, 127)]),
    ("digit", asciiDigit), ("graph", ranges [(33, 126)]), ("lower", ranges [(97, 122)]),
    ("print", ranges [(32, 126)]),
    ("punct", ranges [(33, 47), (58, 64), (91, 96), (123, 126)]), ("space", asciiSpace),
    ("upper", ranges [(65, 90)]), ("word", asciiWord),
    ("xdigit", ranges [(48, 57), (65, 70), (97, 102)])]

end CharSet

end TemplateEngine.Pattern
