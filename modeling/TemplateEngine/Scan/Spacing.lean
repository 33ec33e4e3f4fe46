/-
  TemplateEngine.Scan.Spacing — blanks and comments between the parts of a tag.

  A comment runs from its opening mark to the first closing mark after it, and counts as
  spacing. One that is never closed is not a comment: it stays where it is.
-/

namespace TemplateEngine.Scan

def isSpace (c : Char) : Bool :=
  c == ' ' || c == '\t' || c == '\r' || c == '\n' || c == '\x0c'

/-- What follows the first mark that closes a comment. -/
def afterCommentEnd : List Char → Option (List Char)
  | '#' :: '}' :: rest => some rest
  | _ :: cs => afterCommentEnd cs
  | [] => none

/-- What follows the comment that starts here. -/
def comment? : List Char → Option (List Char)
  | '{' :: '#' :: body => afterCommentEnd body
  | _ => none

/-- Skips blanks and at most `n` comments. -/
def skipSpacingUpTo : Nat → List Char → List Char
  | 0, s => s.dropWhile isSpace
  | n + 1, s =>
    match comment? (s.dropWhile isSpace) with
    | some rest => skipSpacingUpTo n rest
    | none => s.dropWhile isSpace

/-- Skips blanks and comments as far as they go. -/
def skipSpacing (s : List Char) : List Char := skipSpacingUpTo s.length s

theorem afterCommentEnd_length {s rest : List Char} (h : afterCommentEnd s = some rest) :
    rest.length + 2 ≤ s.length := by
  fun_induction afterCommentEnd s with
  | case1 r => simp_all
  | case2 c cs _ ih => have := ih h; simp; omega
  | case3 => simp at h

theorem comment?_length {s rest : List Char} (h : comment? s = some rest) :
    rest.length + 4 ≤ s.length := by
  fun_cases comment? s with
  | case1 body =>
    have := afterCommentEnd_length (by simpa [comment?] using h)
    simp; omega
  | case2 => simp_all [comment?]

end TemplateEngine.Scan
