/-
  TemplateEngine.Text.Case — upper and lower case by Unicode, for all characters.

  A form may be several characters. A capital sigma becomes the final form at the end of a
  word: when a cased character comes before it and none after it, past characters that
  case ignores.
-/

import TemplateEngine.Text.CaseTable
import TemplateEngine.Text.Ranges

namespace TemplateEngine.Text

def inRun (run : Nat × Nat × Nat × Int) (n : Nat) : Bool :=
  run.1 ≤ n && n ≤ run.2.1 && (n - run.1) % run.2.2.1 == 0

/-- The other form of a character by tables of runs and of special cases. -/
def otherForm (runs : List (Nat × Nat × Nat × Int)) (special : List (Nat × List Nat)) (c : Char) :
    List Char :=
  match special.lookup c.toNat with
  | some codes => codes.map Char.ofNat
  | none =>
    match runs.find? (inRun · c.toNat) with
    | some run => [Char.ofNat ((c.toNat : Int) + run.2.2.2).toNat]
    | none => [c]

def upperChar (c : Char) : List Char := otherForm upperRuns upperSpecial c

def lowerChar (c : Char) : List Char := otherForm lowerRuns lowerSpecial c

def upper (s : List Char) : List Char := s.flatMap upperChar

/-- Whether the first character that case does not ignore is cased. -/
def leadsToCased (s : List Char) : Bool :=
  (s.dropWhile (inRanges caseIgnorableRanges)).head?.any (inRanges casedRanges)

/-- Lower case of a text behind the characters `before`, which are kept in reverse. -/
def lowerAfter (before : List Char) : List Char → List Char
  | [] => []
  | c :: cs =>
    let form :=
      if c = 'Σ' then
        if leadsToCased before && !leadsToCased cs then ['ς'] else ['σ']
      else lowerChar c
    form ++ lowerAfter (c :: before) cs

def lower (s : List Char) : List Char := lowerAfter [] s

end TemplateEngine.Text
