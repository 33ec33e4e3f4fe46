/-
  TemplateEngine.Scan.StringLiteral — quoted strings and their escapes.

  A string stands between two quotes of one kind, on one line. After a backslash stands
  one of `b t n f r " ' \`, an octal code of one to three digits (three only from `0` to
  `3` on), or `u`, repeated at will, with four hexadecimal digits.
-/

import TemplateEngine.ParseError
import TemplateEngine.Scan.Word

namespace TemplateEngine.Scan

def simpleEscape? : Char → Option Char
  | 'b' => some '\x08'
  | 't' => some '\t'
  | 'n' => some '\n'
  | 'f' => some '\x0c'
  | 'r' => some '\r'
  | '"' => some '"'
  | '\'' => some '\''
  | '\\' => some '\\'
  | _ => none

def isOctal (c : Char) : Bool := '0' ≤ c && c ≤ '7'

/-- The octal digits of an escape. -/
def octalDigits (s : List Char) : List Char :=
  let ds := (s.take 3).takeWhile isOctal
  if ds.head?.any (· ≤ '3') then ds else ds.take 2

def hexValue? (c : Char) : Option Nat :=
  if '0' ≤ c && c ≤ '9' then some (c.toNat - '0'.toNat)
  else if 'a' ≤ c && c ≤ 'f' then some (c.toNat - 'a'.toNat + 10)
  else if 'A' ≤ c && c ≤ 'F' then some (c.toNat - 'A'.toNat + 10)
  else none

/-- The character with a given code, if it has one: a surrogate has none. -/
def charOfCode? (n : Nat) : Option Char := if n.isValidChar then some (Char.ofNat n) else none

theorem charOfCode?_eq_some_iff {n : Nat} {c : Char} : charOfCode? n = some c ↔ c.toNat = n := by
  unfold charOfCode?
  split
  · rename_i hvalid
    have hcode : (Char.ofNat n).toNat = n := by
      rw [Char.ofNat, dif_pos hvalid]
      rfl
    constructor
    · intro h
      rw [← Option.some.inj h, hcode]
    · intro h
      rw [← h, Char.ofNat_toNat]
  · rename_i hvalid
    constructor
    · nofun
    · intro h
      exact absurd (h ▸ c.valid) hvalid

/-- Reads exactly four hexadecimal digits. -/
def hexCode? : List Char → Option (Nat × List Char)
  | a :: b :: c :: d :: rest => do
    let a ← hexValue? a
    let b ← hexValue? b
    let c ← hexValue? c
    let d ← hexValue? d
    return (((a * 16 + b) * 16 + c) * 16 + d, rest)
  | _ => none

/-- Reads what may follow a backslash. -/
def escape? (s : List Char) : Option (Char × List Char) :=
  match s with
  | [] => none
  | c :: rest =>
    match simpleEscape? c with
    | some decoded => some (decoded, rest)
    | none =>
      if isOctal c then
        let ds := octalDigits s
        let code := ds.foldl (fun n c => n * 8 + (c.toNat - '0'.toNat)) 0
        (charOfCode? code).map fun decoded => (decoded, s.drop ds.length)
      else if c == 'u' then do
        let (code, rest) ← hexCode? (s.dropWhile (· == 'u'))
        let decoded ← charOfCode? code
        return (decoded, rest)
      else none

/-- Reads the inside of a string up to and with its closing quote, in at most `n` steps;
    `start` is where its opening quote stands. -/
def stringBody (quote : Char) (start : List Char) :
    Nat → List Char → Except Fault (List Char × List Char)
  | 0, s => .error (.since .unterminatedString start s)
  | n + 1, s =>
    match s with
    | [] => .error (.since .unterminatedString start s)
    | c :: rest =>
      if c = quote then .ok ([], rest)
      else if c = '\\' then
        match escape? rest with
        | some (decoded, rest) => do
          let (text, rest) ← stringBody quote start n rest
          return (decoded :: text, rest)
        | none => .error (.since .invalidEscape start s)
      else if c = '\r' ∨ c = '\n' then .error (.since .unterminatedString start s)
      else do
        let (text, rest) ← stringBody quote start n rest
        return (c :: text, rest)

/-- Reads a string literal if a quote stands here, and answers where that leaves off. -/
def string? (s : List Char) : Except Fault (Option String × List Char) :=
  match s with
  | [] => .ok (none, s)
  | c :: rest =>
    if c = '"' ∨ c = '\'' then do
      let (text, rest) ← stringBody c s (rest.length + 1) rest
      return (some (String.ofList text), rest)
    else .ok (none, s)

end TemplateEngine.Scan
