/-
  TemplateEngine.Pattern.Parser — reading regular expressions.

  Flags in force at a place decide what the signs there stand for; a group sets them for
  its inside, and flags on their own for what follows in their group. A part of the
  pattern knows its height: how many groups, repetitions, sequences, alternatives and
  bracketed classes lie inside each other in it.

  A pattern is refused if a sign is out of place, a name is unknown, a range or a count is
  the wrong way round, its height is over 250, it would have to match what is no
  character, or its automaton would be too large.
-/

import TemplateEngine.Pattern.Match
import TemplateEngine.Pattern.Property
import TemplateEngine.Pattern.Size
import TemplateEngine.Scan.Number
import TemplateEngine.Scan.StringLiteral
import TemplateEngine.Text.AdditionTable
import TemplateEngine.Text.Ranges

namespace TemplateEngine.Pattern

structure Flags where
  anyCase : Bool := false
  multiLine : Bool := false
  dotAll : Bool := false
  /-- Whether a carriage return ends a line too. -/
  anyLine : Bool := false
  unicode : Bool := true
  /-- Whether blanks and comments may stand between the signs. -/
  spaced : Bool := false

/-- A part of a pattern and its height. -/
structure Part (α : Type) where
  value : α
  height : Nat
  /-- Whether it may be repeated: flags on their own may not. -/
  repeatable : Bool := true

/-- Where the parser stands: the flags in force, the names of groups, what is left. -/
structure State where
  flags : Flags
  names : List (List Char)
  rest : List Char

/-! ## Blanks and comments -/

def skipNotes : Bool → List Char → List Char
  | _, [] => []
  | true, c :: cs => skipNotes (c != '\n') cs
  | false, c :: cs =>
    if Text.isBlank c then skipNotes false cs
    else if c == '#' then skipNotes true cs
    else c :: cs

/-- Skips blanks and comments where they may stand. -/
def skip (f : Flags) (s : List Char) : List Char := if f.spaced then skipNotes false s else s

/-- At most `n` signs that the test accepts, blanks skipped between them. -/
def signsUpTo (f : Flags) (accept : Char → Bool) : Nat → List Char → List Char × List Char
  | 0, s => ([], s)
  | n + 1, s =>
    match s with
    | [] => ([], s)
    | c :: rest =>
      if accept c then
        let (cs, rest) := signsUpTo f accept n (skip f rest)
        (c :: cs, rest)
      else ([], s)

/-- The signs from here on that the test accepts. -/
def signs (f : Flags) (accept : Char → Bool) (s : List Char) : List Char × List Char :=
  signsUpTo f accept s.length s

/-! ## Escapes -/

/-- What a sign or an escape stands for. -/
inductive Atom where
  /-- A character; `byte` if it was given by two hexadecimal digits. -/
  | literal (c : Char) (byte : Bool)
  | set (s : CharSet)
  | look (l : Look)

def isMeta (c : Char) : Bool := "\\.+*?()|[]\x7b\x7d^$#&-~".toList.contains c

/-- ASCII characters other than letters, digits and angle brackets may be escaped. -/
def isEscapable (c : Char) : Bool :=
  isMeta c || (c.toNat < 128 && !c.isAlphanum && c != '<' && c != '>')

def charOfHex? (digits : List Char) : Option Char := do
  let ds ← digits.mapM Scan.hexValue?
  let n := ds.foldl (fun n d => n * 16 + d) 0
  if digits.isEmpty then none else Scan.charOfCode? n

/-- The signs up to a closing brace, blanks skipped between them. -/
def braced (f : Flags) : Nat → List Char → Option (List Char × List Char)
  | 0, _ => none
  | n + 1, s =>
    match skip f s with
    | [] => none
    | c :: rest =>
      if c = '}' then some ([], rest)
      else do
        let (cs, rest) ← braced f n rest
        return (c :: cs, rest)

/-- The next `n` signs, blanks skipped between them. -/
def following (f : Flags) : Nat → List Char → Option (List Char × List Char)
  | 0, s => some ([], s)
  | n + 1, s =>
    match skip f s with
    | [] => none
    | c :: rest => do
      let (cs, rest) ← following f n rest
      return (c :: cs, rest)

/-- A code of a given number of digits, or in braces. -/
def hexEscape? (f : Flags) (count : Nat) (s : List Char) : Option (Atom × List Char) :=
  match skip f s with
  | '{' :: rest => do
    let (digits, rest) ← braced f (rest.length + 1) rest
    return (.literal (← charOfHex? digits) false, skip f rest)
  | s => do
    let (digits, rest) ← following f count s
    return (.literal (← charOfHex? digits) (count == 2), skip f rest)

/-- The bytes from 128 up are no characters: a set of bytes must have none of them. -/
def bytesOnly? (s : CharSet) : Option CharSet :=
  if (List.range 128).any fun i => s.has (i + 128) then none
  else some (.inter s CharSet.ascii)

/-- A set in the form the flags ask for: closed under case, then negated. -/
def finished? (f : Flags) (negated : Bool) (s : CharSet) : Option CharSet :=
  let s := if f.anyCase then .anyCase f.unicode s else s
  let s := if negated then .compl s else s
  if f.unicode then some s else bytesOnly? s

def perlSet? (f : Flags) (c : Char) : Option CharSet :=
  let choose (unicode ascii : CharSet) := if f.unicode then unicode else ascii
  let s := match c.toLower with
    | 'd' => choose .digit .asciiDigit
    | 's' => choose .space .asciiSpace
    | _ => choose .word .asciiWord
  let s := if c.isUpper then .compl s else s
  if f.unicode then some s else bytesOnly? s

/-- A name of a property, which may hold a value behind `:`, `=` or `!=`. -/
def namedSet? (f : Flags) (negated : Bool) (name : List Char) : Option CharSet := do
  if !f.unicode then none
  let cut (mark : List Char) : Option (List Char × List Char) :=
    (List.range name.length).findSome? fun i =>
      (Text.after? mark (name.drop i)).map fun rest => (name.take i, rest)
  match cut ['!', '='] with
  | some (property, value) => finished? f (!negated) (← propertyValue? property value)
  | none =>
    match cut [':'] <|> cut ['='] with
    | some (property, value) => finished? f negated (← propertyValue? property value)
    | none => finished? f negated (← property? name)

def propertyEscape? (f : Flags) (negated : Bool) (s : List Char) : Option (Atom × List Char) :=
  match skip f s with
  | [] => none
  | c :: rest =>
    if c = '{' then do
      let (name, rest) ← braced f (rest.length + 1) rest
      return (.set (← namedSet? f negated name), rest)
    else if c = '\\' || !f.unicode then none
    else do
      return (.set (← finished? f negated (← property? [c])), skip f rest)

def isBoundaryLetter (c : Char) : Bool := Scan.isAsciiLetter c || c == '-'

def boundaryLook? (unicode : Bool) : String → Option Look
  | "start" => some (.wordStart unicode)
  | "end" => some (.wordEnd unicode)
  | "start-half" => some (.wordStartHalf unicode)
  | "end-half" => some (.wordEndHalf unicode)
  | _ => none

/-- Reads the name of a boundary and the closing brace. -/
def namedBoundary? (f : Flags) (s : List Char) : Option (Atom × List Char) :=
  match signs f isBoundaryLetter s with
  | (name, '}' :: rest) => do return (.look (← boundaryLook? f.unicode (String.ofList name)), rest)
  | _ => none

/-- A word boundary, which may be named in braces; other braces count repetitions. -/
def boundary? (f : Flags) (s : List Char) : Option (Atom × List Char) :=
  match s with
  | '{' :: rest =>
    match skip f rest with
    | [] => none
    | c :: cs =>
      if isBoundaryLetter c then namedBoundary? f (c :: cs) else some (.look (.wordBoundary f.unicode), s)
  | _ => some (.look (.wordBoundary f.unicode), s)

def controlEscape? : Char → Option Char
  | 'a' => some '\x07'
  | 'f' => some '\x0c'
  | 't' => some '\t'
  | 'n' => some '\n'
  | 'r' => some '\r'
  | 'v' => some '\x0b'
  | _ => none

/-- Reads what may follow a backslash. -/
def escape? (f : Flags) (s : List Char) : Option (Atom × List Char) :=
  match s with
  | [] => none
  | c :: rest =>
    match c with
    | 'x' => hexEscape? f 2 rest
    | 'u' => hexEscape? f 4 rest
    | 'U' => hexEscape? f 8 rest
    | 'p' => propertyEscape? f false rest
    | 'P' => propertyEscape? f true rest
    | 'd' | 's' | 'w' | 'D' | 'S' | 'W' => do return (.set (← perlSet? f c), rest)
    | 'A' => some (.look .textStart, rest)
    | 'z' => some (.look .textEnd, rest)
    | 'b' => boundary? f rest
    | 'B' => some (.look (.notWordBoundary f.unicode), rest)
    | '<' => some (.look (.wordStart f.unicode), rest)
    | '>' => some (.look (.wordEnd f.unicode), rest)
    | c =>
      if isEscapable c then some (.literal c false, rest)
      else do return (.literal (← controlEscape? c) false, rest)

/-! ## Bracketed classes -/

inductive SetOperator where
  | intersection
  | difference
  | symmetricDifference

def setOperator? : List Char → Option (SetOperator × List Char)
  | '&' :: '&' :: rest => some (.intersection, rest)
  | '-' :: '-' :: rest => some (.difference, rest)
  | '~' :: '~' :: rest => some (.symmetricDifference, rest)
  | _ => none

/-- The union of a class's items; an item alone is itself. -/
def unionPart (items : List (Part CharSet)) : Part CharSet :=
  match items with
  | [item] => item
  | items =>
    { value := CharSet.unionOf (items.map (·.value))
      height := if items.isEmpty then 0 else 1 + (items.map (·.height)).foldl max 0 }

/-- The operand so far and the next one, joined by the operator between them. -/
def combine (f : Flags) (left : Option (SetOperator × Part CharSet)) (right : Part CharSet) :
    Part CharSet :=
  match left with
  | none => right
  | some (op, left) =>
    let closed (s : CharSet) : CharSet := if f.anyCase then .anyCase f.unicode s else s
    let a := closed left.value
    let b := closed right.value
    { value := match op with
        | .intersection => .inter a b
        | .difference => .diff a b
        | .symmetricDifference => .symmDiff a b
      height := 1 + max left.height right.height }

/-- Reads the end of a named class. -/
def classEnd? : List Char → Option (List Char)
  | ':' :: ']' :: rest => some rest
  | _ => none

/-- Reads a named class from its name on. -/
def namedClass? (f : Flags) (negated : Bool) (s : List Char) : Option (CharSet × List Char) := do
  let rest ← classEnd? (s.dropWhile (· != ':'))
  let set ← CharSet.named.lookup (String.ofList (s.takeWhile (· != ':')))
  return (← finished? f negated set, rest)

/-- Reads `[:name:]` from behind its bracket, if it is one of the named classes. -/
def asciiClass? (f : Flags) : List Char → Option (CharSet × List Char)
  | ':' :: '^' :: rest => namedClass? f true rest
  | ':' :: rest => namedClass? f false rest
  | _ => none

/-- Whether `[:name:]` stands here. -/
def isAsciiClass (s : List Char) : Bool := (asciiClass? {} s).isSome

/-- A literal as a member of a class. -/
def literalCode? (f : Flags) (c : Char) (byte : Bool) : Option Nat :=
  if f.unicode || byte || c.toNat < 128 then some c.toNat else none

def classAtom? (f : Flags) (s : List Char) : Option (Atom × List Char) :=
  match s with
  | [] => none
  | '\\' :: rest => escape? f rest
  | c :: rest => some (.literal c false, rest)

/-- A character or a set by an escape. -/
def alone? (f : Flags) : Atom → Option CharSet
  | .literal c byte => (literalCode? f c byte).map fun n => .ranges [(n, n)]
  | .set s => some s
  | .look _ => none

/-- The characters from one literal to another. -/
def between? (f : Flags) : Atom → Atom → Option CharSet
  | .literal a byte, .literal b byte' => do
    let lo ← literalCode? f a byte
    let hi ← literalCode? f b byte'
    if lo ≤ hi then some (.ranges [(lo, hi)]) else none
  | _, _ => none

/-- A member of a class: a character, a range of them, or a set by an escape. A hyphen makes no
    range in front of another one or of the closing bracket. -/
def classItem? (f : Flags) (s : List Char) : Option (CharSet × List Char) := do
  let (first, rest) ← classAtom? f s
  match skip f rest with
  | [] => none
  | c :: more =>
    if c ≠ '-' ∨ (skip f more).head? = some ']' ∨ (skip f more).head? = some '-' then
      return (← alone? f first, c :: more)
    else
      let (second, rest) ← classAtom? f (skip f more)
      return (← between? f first second, rest)

/-- Reads the sign that negates a class. -/
def negation (f : Flags) (s : List Char) : Bool × List Char :=
  match skip f s with
  | '^' :: rest => (true, skip f rest)
  | s => (false, s)

/-- Reads the members that stand for themselves only at the start of a class: hyphens, or else
    a closing bracket. -/
def leadingItems (f : Flags) (s : List Char) : List (Part CharSet) × List Char :=
  match signs f (· == '-') s with
  | ([], ']' :: rest) => ([⟨.single ']', 0, true⟩], skip f rest)
  | (hyphens, rest) => (hyphens.map fun c => ⟨.single c, 0, true⟩, rest)

mutual

/-- Reads a class from behind its opening bracket up to its closing one. -/
def bracketed (f : Flags) : Nat → List Char → Option (Part CharSet × List Char)
  | 0, _ => none
  | n + 1, s => do
    let (negated, rest) := negation f s
    let (items, rest) := leadingItems f rest
    let (inner, rest) ← classRest f n none items rest
    return (⟨← finished? f negated inner.value, inner.height + 1, true⟩, rest)

/-- Reads the rest of a class: `left` is what an operator is to be applied to, and `items`
    are the members since, the last one first. -/
def classRest (f : Flags) :
    Nat → Option (SetOperator × Part CharSet) → List (Part CharSet) → List Char →
      Option (Part CharSet × List Char)
  | 0, _, _, _ => none
  | n + 1, left, items, s =>
    let operand := combine f left (unionPart items.reverse)
    match skip f s with
    | [] => none
    | c :: rest =>
      if c = ']' then some (operand, rest)
      else if c = '[' then
        if isAsciiClass rest then do
          let (s, rest) ← asciiClass? f rest
          classRest f n left (⟨s, 0, true⟩ :: items) rest
        else do
          let (inner, rest) ← bracketed f n rest
          classRest f n left (inner :: items) rest
      else
        match setOperator? (c :: rest) with
        | some (op, rest) => classRest f n (some (op, operand)) [] rest
        | none => do
          let (item, rest) ← classItem? f (c :: rest)
          classRest f n left (⟨item, 0, true⟩ :: items) rest

end

/-! ## Groups and flags -/

/-- Sets or unsets one flag. -/
def Flags.set? (f : Flags) (on : Bool) : Char → Option Flags
  | 'i' => some { f with anyCase := on }
  | 'm' => some { f with multiLine := on }
  | 's' => some { f with dotAll := on }
  | 'R' => some { f with anyLine := on }
  | 'u' => some { f with unicode := on }
  | 'x' => some { f with spaced := on }
  | 'U' => some f
  | _ => none

/-- What opens behind a parenthesis: a group with what is in force inside it, or flags for what
    follows. -/
inductive Opening where
  | group (flags : Flags) (names : List (List Char)) (isMarked : Bool)
  | flags (after : Flags)

/-- Reads flags up to `)`, which puts them in force for what follows, or up to `:`, which opens a
    group. Each may stand once, and so may the hyphen that unsets those behind it, but not at
    the end. -/
def flags? (f : Flags) (names : List (List Char)) (on : Bool) (seen : List Char) :
    List Char → Option (Opening × List Char)
  | [] => none
  | c :: rest =>
    if c = ')' ∨ c = ':' then
      if seen.head? = some '-' then none else some (if c = ')' then .flags f else .group f names false, rest)
    else if seen.contains c then none
    else if c = '-' then flags? f names false (c :: seen) rest
    else do flags? (← f.set? on c) names on (c :: seen) rest

/-- Whether it may be in the name of a group as a letter: by Unicode 17. -/
def isNameLetter (c : Char) : Bool :=
  CharSet.alphabetic.has c.toNat || Text.inRanges Text.Addition.alphabetic c

def isNameStart (c : Char) : Bool := c == '_' || isNameLetter c

def isNameChar (c : Char) : Bool :=
  c == '_' || c == '.' || c == '[' || c == ']' || isNameLetter c || CharSet.number.has c.toNat
    || Text.inRanges Text.Addition.number c

/-- Reads the name of a group and the angle bracket behind it. -/
def groupName? (s : List Char) : Option (List Char × List Char) :=
  let name := s.takeWhile (· != '>')
  match s.dropWhile (· != '>') with
  | _ :: rest => if name.head?.any isNameStart && name.all isNameChar then some (name, rest) else none
  | [] => none

/-- Opens a group from its name on, which no other group has. -/
def namedGroup? (f : Flags) (names : List (List Char)) (s : List Char) : Option (Opening × List Char) := do
  let (name, rest) ← groupName? s
  if names.contains name then none else return (.group f (name :: names) true, rest)

/-- Opens what a question mark begins: a group with a name or with flags, or flags alone. What
    looks around is neither. -/
def flagged? (f : Flags) (names : List (List Char)) : List Char → Option (Opening × List Char)
  | ')' :: _ => none
  | '<' :: rest | 'P' :: '<' :: rest => namedGroup? f names rest
  | s => flags? f names true [] s

def opening? (f : Flags) (names : List (List Char)) (s : List Char) : Option (Opening × List Char) :=
  match skip f s with
  | '?' :: rest => flagged? f names rest
  | s => some (.group f names true, s)

/-! ## Repetitions -/

/-- Reads a number with blanks around it. -/
def count? (f : Flags) (s : List Char) : Option (Nat × List Char) :=
  let (ds, rest) := signs f Scan.isDigit (s.dropWhile Text.isBlank)
  let value := Decimal.digitsValue ds
  if ds.isEmpty || value ≥ 0x100000000 then none
  else some (value, skip f (rest.dropWhile Text.isBlank))

/-- Reads what may stand behind the comma: the larger count and the closing brace. -/
def largest? (f : Flags) (low : Nat) : List Char → Option (Option Nat × List Char)
  | '}' :: rest => some (none, rest)
  | s => do
    match ← count? f s with
    | (high, '}' :: rest) => if low ≤ high then some (some high, rest) else none
    | _ => none

/-- Reads counts from behind an opening brace up to the closing one. -/
def counts? (f : Flags) (s : List Char) : Option ((Nat × Option Nat) × List Char) := do
  match ← count? f (skip f s) with
  | (low, ',' :: rest) =>
    let (high, rest) ← largest? f low (skip f rest)
    return ((low, high), rest)
  | (low, '}' :: rest) => some ((low, some low), rest)
  | _ => none

/-- Skips the sign that makes a repetition reluctant. -/
def reluctant (s : List Char) : List Char :=
  match s with
  | '?' :: rest => rest
  | _ => s

def repeats (c : Char) : Bool := "?*+\x7b".toList.contains c

/-- Reads how often what stands before is repeated, from behind the first sign. -/
def copies? (f : Flags) (c : Char) (rest : List Char) : Option ((Nat × Option Nat) × List Char) :=
  match c with
  | '?' => some ((0, some 1), reluctant rest)
  | '*' => some ((0, none), reluctant rest)
  | '+' => some ((1, none), reluctant rest)
  | _ => do
    let (counts, rest) ← counts? f rest
    return (counts, reluctant (skip f rest))

def repeatLast (min : Nat) (max : Option Nat) : List (Part Regex) → Option (List (Part Regex))
  | [] => none
  | p :: before =>
    if p.repeatable then some (⟨p.value.repeated min max, p.height + 1, true⟩ :: before) else none

/-! ## Sequences and alternatives -/

def dotSet (f : Flags) : Option CharSet :=
  if !f.unicode then none
  else if f.dotAll then some .all
  else if f.anyLine then some (.compl (.ranges [(10, 10), (13, 13)]))
  else some (.compl (.ranges [(10, 10)]))

def lineLook (f : Flags) (plain line anyLine : Look) : Look :=
  if f.multiLine then if f.anyLine then anyLine else line else plain

/-- The expression that one sign or escape stands for. -/
def atomRegex? (f : Flags) : Atom → Option Regex
  | .literal c byte =>
    if byte && !f.unicode && c.toNat ≥ 128 then none
    else some (.char (if f.anyCase then .anyCase f.unicode (.single c) else .single c))
  | .set s => some (.char s)
  | .look l => some (.look l)

/-- Reads a sign, an escape or a class, from behind its first sign. -/
def sign? (f : Flags) (c : Char) (rest : List Char) : Option (Part Regex × List Char) :=
  match c with
  | '[' => do
    let (s, rest) ← bracketed f (2 * rest.length + 2) rest
    return (⟨.char s.value, s.height, true⟩, rest)
  | '.' => do return (⟨.char (← dotSet f), 0, true⟩, rest)
  | '^' => some (⟨.look (lineLook f .textStart .lineStart .anyLineStart), 0, true⟩, rest)
  | '$' => some (⟨.look (lineLook f .textEnd .lineEnd .anyLineEnd), 0, true⟩, rest)
  | '\\' => do
    let (atom, rest) ← escape? f rest
    return (⟨← atomRegex? f atom, 0, true⟩, rest)
  | c => do return (⟨← atomRegex? f (.literal c false), 0, true⟩, rest)

/-- Parts one after the other, the last one first; one alone is itself. -/
def sequencePart (parts : List (Part Regex)) : Part Regex :=
  match parts with
  | [p] => p
  | parts =>
    { value := Regex.seqOf (parts.reverse.map (·.value))
      height := if parts.isEmpty then 0 else 1 + (parts.map (·.height)).foldl max 0 }

def alternativePart (parts : List (Part Regex)) : Part Regex :=
  match parts with
  | [p] => p
  | parts =>
    { value := Regex.altOf (parts.map (·.value))
      height := 1 + (parts.map (·.height)).foldl max 0 }

def groupPart (isMarked : Bool) (body : Part Regex) : Part Regex :=
  ⟨if isMarked then .group body.value else body.value, body.height + 1, true⟩

mutual

/-- Reads alternatives up to the end of their group. -/
def alternatives : Nat → State → Option (List (Part Regex) × State)
  | 0, _ => none
  | n + 1, st => do
    let (first, st) ← sequence n [] st
    match st.rest with
    | '|' :: rest =>
      let (more, st) ← alternatives n { st with rest }
      return (first :: more, st)
    | _ => return ([first], st)

/-- Reads parts up to the end of an alternative; `parts` are those before, the last first. -/
def sequence : Nat → List (Part Regex) → State → Option (Part Regex × State)
  | 0, _, _ => none
  | n + 1, parts, st =>
    match skip st.flags st.rest with
    | [] => some (sequencePart parts, { st with rest := [] })
    | c :: rest =>
      if c = ')' ∨ c = '|' then some (sequencePart parts, { st with rest := c :: rest })
      else if c = '(' then do
        match ← opening? st.flags st.names rest with
        | (.flags flags, rest) => sequence n (⟨.empty, 0, false⟩ :: parts) { st with flags, rest }
        | (.group flags names isMarked, rest) =>
          let (branches, after) ← alternatives n { flags, names, rest }
          match after.rest with
          | ')' :: rest =>
            sequence n (groupPart isMarked (alternativePart branches) :: parts)
              { flags := st.flags, names := after.names, rest }
          | _ => none
      else if repeats c then do
        let ((min, max), rest) ← copies? st.flags c rest
        sequence n (← repeatLast min max parts) { st with rest }
      else do
        let (part, rest) ← sign? st.flags c rest
        sequence n (part :: parts) { st with rest }

end

/-- How high a pattern may be. -/
def maxHeight : Nat := 250

/-- How many bytes its automaton may take. -/
def maxSize : Nat := 0xa00000

/-- Reads a pattern. -/
def parse? (pattern : List Char) : Option Regex := do
  let (branches, st) ← alternatives (2 * pattern.length + 2) ⟨{}, [], pattern⟩
  let part := alternativePart branches
  if st.rest.isEmpty && part.height ≤ maxHeight && part.value.size ≤ maxSize then some part.value
  else none

/-- Makes the test whether a pattern occurs in a text. -/
def compile (pattern : String) : Except String (String → Bool) :=
  match parse? pattern.toList with
  | some r => .ok r.occursIn
  | none => .error "no regular expression"

end TemplateEngine.Pattern
