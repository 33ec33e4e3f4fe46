/-
  TemplateEngine.Scan.Number — whole numbers, decimal fractions and the bounds of
  character ranges.

  A scanner answers where it leaves off, also where nothing of its kind starts. One that
  has to look further before it knows goes back to where it began.
-/

import TemplateEngine.Decimal.Digits
import TemplateEngine.Double.Basic
import TemplateEngine.Number
import TemplateEngine.Scan.Word

namespace TemplateEngine.Scan

/-- What is read, if it stands here, and what is left behind it. -/
abbrev Scanner (α : Type) := List Char → Option α × List Char

/-- Reads digits, at least one. -/
def digits : Scanner (List Char) := fun s =>
  let rest := s.dropWhile isDigit
  match s.takeWhile isDigit with
  | [] => (none, rest)
  | ds => (some ds, rest)

/-- Reads a sign if there is one. -/
def minus (s : List Char) : Bool × List Char :=
  match s with
  | '-' :: rest => (true, rest)
  | _ => (false, s)

/-- Reads digits with an optional sign before them. -/
def signedDigits : Scanner (Bool × List Char) := fun s =>
  let (negative, unsigned) := minus s
  match digits unsigned with
  | (some ds, rest) => (some (negative, ds), rest)
  | (none, _) => (none, s)

/-- Reads a whole number; one that fits no word is none. -/
def integer : Scanner Int64 := fun s =>
  match signedDigits s with
  | (none, rest) => (none, rest)
  | (some (negative, ds), rest) =>
    let n : Int := Decimal.digitsValue ds
    match word? (if negative then -n else n) with
    | some value => (some value, rest)
    | none => (none, s)

/-- Reads digits around a point, with an optional sign, as the closest double. -/
def double : Scanner Double := fun s =>
  match signedDigits s with
  | (none, rest) => (none, rest)
  | (some (negative, whole), rest) =>
    match mark? "." rest with
    | none => (none, s)
    | some rest =>
      match digits rest with
      | (none, _) => (none, s)
      | (some places, rest) =>
        (some (Double.ofRatio negative (Decimal.digitsValue (whole ++ places)) (Nat.pow 10 places.length)), rest)

def isAsciiLetter (c : Char) : Bool := ('a' ≤ c && c ≤ 'z') || ('A' ≤ c && c ≤ 'Z')

/-- Reads one ASCII letter between single quotes. -/
def letter : Scanner Char
  | '\'' :: c :: '\'' :: rest =>
    if isAsciiLetter c then (some c, rest) else (none, '\'' :: c :: '\'' :: rest)
  | s => (none, s)

end TemplateEngine.Scan
