/-
  TemplateEngine.Json.Reader — reading JSON text.

  A limit on the depth of nesting is part of the reader, which is also what ends it.
  Strings are read strictly, where an escape that names half of
  a surrogate pair is refused, or loosely, where it stands for U+FFFD; the loose form is
  for values that nobody will look at.
-/

import TemplateEngine.Json.Basic
import TemplateEngine.Scan.Number
import TemplateEngine.Scan.StringLiteral

namespace TemplateEngine.Json

abbrev Reader (α : Type) := List Char → Option (α × List Char)

def isBlank (c : Char) : Bool := c == ' ' || c == '\n' || c == '\t' || c == '\r'

def skipBlanks (s : List Char) : List Char := s.dropWhile isBlank

/-- Reads one character behind blanks. -/
def sign? (c : Char) (s : List Char) : Option (List Char) :=
  match skipBlanks s with
  | d :: rest => if c = d then some rest else none
  | [] => none

/-! ## Strings -/

def simpleEscape? : Char → Option Char
  | '"' => some '"'
  | '\\' => some '\\'
  | '/' => some '/'
  | 'b' => some '\x08'
  | 'f' => some '\x0c'
  | 'n' => some '\n'
  | 'r' => some '\r'
  | 't' => some '\t'
  | _ => none

/-- The second half of a surrogate pair whose first half is `high`. -/
def lowHalf? (high : Nat) (s : List Char) : Option (Char × List Char) :=
  match s with
  | '\\' :: 'u' :: rest => do
    let (low, rest) ← Scan.hexCode? rest
    if 0xdc00 ≤ low && low < 0xe000 then
      let c ← Scan.charOfCode? (0x10000 + (high - 0xd800) * 0x400 + (low - 0xdc00))
      return (c, rest)
    else none
  | _ => none

/-- Reads what may follow a backslash. -/
def escape? (strict : Bool) (s : List Char) : Option (Char × List Char) :=
  match s with
  | [] => none
  | 'u' :: rest => do
    let (code, rest) ← Scan.hexCode? rest
    let paired := if 0xd800 ≤ code && code < 0xdc00 then lowHalf? code rest else none
    match paired, Scan.charOfCode? code with
    | some found, _ => some found
    | none, some c => some (c, rest)
    | none, none => if strict then none else some ('\ufffd', rest)
  | c :: rest => (simpleEscape? c).map (·, rest)

/-- Reads the inside of a string and its closing quote in at most `n` steps. -/
def stringRest (strict : Bool) : Nat → Reader (List Char)
  | 0, _ => none
  | n + 1, s =>
    match s with
    | [] => none
    | '"' :: rest => some ([], rest)
    | '\\' :: rest => do
      let (c, rest) ← escape? strict rest
      let (cs, rest) ← stringRest strict n rest
      return (c :: cs, rest)
    | c :: rest =>
      if c.toNat < 0x20 then none
      else do
        let (cs, rest) ← stringRest strict n rest
        return (c :: cs, rest)

def string? (strict : Bool) (s : List Char) : Option (String × List Char) := do
  let rest ← sign? '"' s
  let (cs, rest) ← stringRest strict (rest.length + 1) rest
  return (String.ofList cs, rest)

/-! ## Numbers -/

def digits? : Reader (List Char) := fun s =>
  match Scan.digits s with
  | (some ds, rest) => some (ds, rest)
  | (none, _) => none

def places? (s : List Char) : Option (Option (List Char) × List Char) :=
  match s with
  | '.' :: rest => (digits? rest).map fun (ds, rest) => (some ds, rest)
  | _ => some (none, s)

def exponent? (s : List Char) : Option (Option (Bool × List Char) × List Char) :=
  match s with
  | c :: rest =>
    if c = 'e' ∨ c = 'E' then
      let (negative, rest) :=
        match rest with
        | '-' :: rest => (true, rest)
        | '+' :: rest => (false, rest)
        | _ => (false, rest)
      (digits? rest).map fun (ds, rest) => (some (negative, ds), rest)
    else some (none, s)
  | [] => some (none, s)

/-- A number has no needless zeros in front. -/
def numeral? (s : List Char) : Option (Numeral × List Char) := do
  let (negative, s) := Scan.minus s
  let (whole, rest) ← digits? s
  if whole.head? = some '0' && whole.length > 1 then none
  let (places, rest) ← places? rest
  let (exponent, rest) ← exponent? rest
  return (⟨negative, whole, places, exponent⟩, rest)

/-! ## Containers and values -/

/-- At most `n` further things, each behind a comma, and the closing sign. -/
def further {α : Type} (item : Reader α) (closing : Char) : Nat → Reader (List α)
  | 0, _ => none
  | n + 1, s =>
    match sign? closing s with
    | some rest => some ([], rest)
    | none => do
      let rest ← sign? ',' s
      let (first, rest) ← item rest
      let (more, rest) ← further item closing n rest
      return (first :: more, rest)

/-- Things between two signs, with commas between them. -/
def enclosed? {α : Type} (opening closing : Char) (item : Reader α) : Reader (List α) := fun s => do
  let rest ← sign? opening s
  match sign? closing rest with
  | some rest => return ([], rest)
  | none =>
    let (first, rest) ← item rest
    let (more, rest) ← further item closing (rest.length + 1) rest
    return (first :: more, rest)

def member? {α : Type} (strict : Bool) (value : Reader α) : Reader (String × α) := fun s => do
  let (name, rest) ← string? strict s
  let rest ← sign? ':' rest
  let (v, rest) ← value rest
  return ((name, v), rest)

def members? {α : Type} (strict : Bool) (value : Reader α) : Reader (List (String × α)) :=
  enclosed? '{' '}' (member? strict value)

/-- A value that is no container. -/
def scalar? (strict : Bool) : Reader Json := fun s =>
  let s := skipBlanks s
  match s with
  | '"' :: _ => (string? strict s).map fun (text, rest) => (.string text, rest)
  | 'n' :: 'u' :: 'l' :: 'l' :: rest => some (.null, rest)
  | 't' :: 'r' :: 'u' :: 'e' :: rest => some (.bool true, rest)
  | 'f' :: 'a' :: 'l' :: 's' :: 'e' :: rest => some (.bool false, rest)
  | _ => (numeral? s).map fun (n, rest) => (.number n, rest)

/-- A value with at most `depth` containers inside each other. -/
def value? (strict : Bool) : Nat → Reader Json
  | 0, s => scalar? strict s
  | depth + 1, s =>
    match skipBlanks s with
    | '[' :: _ =>
      (enclosed? '[' ']' (value? strict depth) s).map fun (items, rest) => (.array items, rest)
    | '{' :: _ =>
      (members? strict (value? strict depth) s).map fun (ms, rest) => (.object ms, rest)
    | _ => scalar? strict s

/-- Reads a whole text with one reader; only blanks may be left. -/
def whole? {α : Type} (reader : Reader α) (text : String) : Option α := do
  let (found, rest) ← reader text.toList
  if (skipBlanks rest).isEmpty then some found else none

/-- Reads a document with at most `depth` containers inside each other. -/
def parse? (depth : Nat) (text : String) : Option Json := whole? (value? true depth) text

/-- Reads an array, or an object whose members only have to look like JSON. -/
def record? (text : String) : Option Json :=
  match skipBlanks text.toList with
  | '[' :: _ => (whole? (enclosed? '[' ']' (value? true text.length)) text).map .array
  | _ => (whole? (members? true (value? false text.length)) text).map .object

/-- How many containers may stand inside each other in data. -/
def depthLimit : Nat := 127

end TemplateEngine.Json
