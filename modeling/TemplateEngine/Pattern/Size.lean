/-
  TemplateEngine.Pattern.Size — how many bytes the automaton for an expression takes.

  An automaton is built twice, to read forwards and to read backwards, and both have to
  keep within the limit. A state takes 32 bytes, and more for each interval of bytes that
  it tells apart or for each state that it leads to. Forwards, a set of characters shares
  the states that go on in the same way; backwards, those that got there in the same way.

  Before that an expression is simplified: neighbouring characters join into a word, and
  alternatives that are all single characters, or all sets, into a set.
-/

import TemplateEngine.Pattern.Basic
import TemplateEngine.Pattern.ByteRuns

namespace TemplateEngine.Pattern

/-- An expression as an automaton is built for it. -/
inductive Plan where
  | word (codes : List Nat)
  | set (rs : List Interval)
  | look (l : Look)
  | group (p : Plan)
  | copies (p : Plan) (min : Nat) (max : Option Nat)
  | seq (parts : List Plan)
  | alt (choices : List Plan)

namespace Plan

/-! ## Simplification -/

def ofSet (rs : List Interval) : Plan :=
  match rs with
  | [(a, b)] => if a = b then word [a] else set rs
  | _ => set rs

def joinWords : List Plan → List Plan
  | [] => []
  | word cs :: rest =>
    match joinWords rest with
    | word ds :: more => word (cs ++ ds) :: more
    | more => word cs :: more
  | p :: rest => p :: joinWords rest

def seqOf (parts : List Plan) : Plan :=
  match joinWords parts with
  | [p] => p
  | ps => seq ps

def char? : Plan → Option (List Interval)
  | word [c] => some [(c, c)]
  | _ => none

def set? : Plan → Option (List Interval)
  | set rs => some rs
  | _ => none

def word? : Plan → Option (List Nat)
  | word cs => some cs
  | _ => none

def altOf (choices : List Plan) : Plan :=
  match choices.mapM char? <|> choices.mapM set? with
  | some rs => ofSet (coalesce rs.flatten)
  | none => alt choices

def copiesOf (p : Plan) (min : Nat) (max : Option Nat) : List Plan :=
  match min, max with
  | 0, some 0 => []
  | 1, some 1 =>
    match p with
    | seq ps => ps
    | p => [p]
  | min, max => [copies p min max]

/-- The parts of a sequence that stands for some alternatives. -/
def closed : List (List Plan) → List Plan
  | [parts] => parts
  | choices => [altOf (choices.map seqOf)]

/-- The alternatives of an expression, each as the parts of a sequence. -/
def choicesOf : Regex → List (List Plan)
  | .empty => [[]]
  | .char s => [[ofSet s.intervals]]
  | .look l => [[look l]]
  | .group r => [[group (seqOf (closed (choicesOf r)))]]
  | .seq a b => [closed (choicesOf a) ++ closed (choicesOf b)]
  | .alt a b => choicesOf a ++ choicesOf b
  | .copies r min max => [copiesOf (seqOf (closed (choicesOf r))) min max]

def ofRegex (r : Regex) : Plan := seqOf (closed (choicesOf r))

/-! ## Sizes -/

def stateSize : Nat := 32

/-- A state that tells `n` intervals of bytes apart. -/
def tellingSize (n : Nat) : Nat := stateSize + 8 * n

/-- A state that leads to `n` others at once. -/
def forkSize (n : Nat) : Nat := stateSize + 4 * n

/-- A set reads a byte in one state if its members take one byte each. -/
def setSize (backward : Bool) (rs : List Interval) : Nat :=
  if rs.all fun r => r.2 < 0x80 then stateSize + tellingSize rs.length
  else
    let runs := rs.flatMap runsOf
    if backward then stateSize + forkSize runs.length + beginnings 4 runs * stateSize
    else stateSize + total (fun place => tellingSize place.length) (places 4 runs []).2

/-- Words up to those that end here, and so on behind each of these. -/
def cutAtEnds : List (List Nat) → List (List (List Nat))
  | [] => [[]]
  | [] :: words => [] :: cutAtEnds words
  | w :: words =>
    match cutAtEnds words with
    | first :: others => (w :: first) :: others
    | [] => [[w]]

/-- What alternatives that are all words take: they share states where they begin alike. The
    first number bounds the length of the words. -/
def wordsSize : Nat → List (List Nat) → Nat
  | 0, _ => 0
  | n + 1, words =>
    if words.all (·.isEmpty) then 0
    else
      -- words that end before any other goes on count once
      let words := (if (words.head?.any (·.isEmpty)) then [[]] else []) ++ words.dropWhile (·.isEmpty)
      let cut := cutAtEnds words
      let exits := cut.length - 1 + (cut.filter fun part => !part.isEmpty).length
      let partSize (part : List (List Nat)) : Nat :=
        let heads := (part.filterMap List.head?).eraseDups
        let here :=
          if heads.length = 0 then 0
          else if heads.length = 1 then stateSize
          else tellingSize heads.length
        here + total
          (fun b => wordsSize n ((part.filter fun w => w.head? == some b).map List.tail)) heads
      total partSize cut + (if exits > 1 then forkSize exits else 0)

mutual

/-- Whether it takes at least one character. -/
def takesSome : Plan → Bool
  | word _ | set _ => true
  | look _ => false
  | group p => takesSome p
  | copies p min _ => min > 0 && takesSome p
  | seq parts => someTakes parts
  | alt choices => allTake choices

def someTakes : List Plan → Bool
  | [] => false
  | p :: rest => takesSome p || someTakes rest

def allTake : List Plan → Bool
  | [] => true
  | p :: rest => takesSome p && allTake rest

end

mutual

/-- What a plan takes, the states that mark the ends of groups only forwards. -/
def size (backward : Bool) : Plan → Nat
  | word codes => (codes.flatMap bytesOf).length * stateSize
  | set rs => setSize backward rs
  | look _ => stateSize
  | group p => size backward p + if backward then 0 else 2 * stateSize
  | copies p min max =>
    let one := size backward p
    match min, max with
    | 0, some 1 => one + forkSize 2 + stateSize
    | 0, none => if takesSome p then one + forkSize 2 else one + 2 * forkSize 2 + stateSize
    | min, none => min * one + forkSize 2
    | min, some max =>
      if min = max then min * one
      else
        (if min = 0 then stateSize else min * one) + stateSize + (max - min) * (one + forkSize 2)
  | seq parts => if parts.isEmpty then stateSize else sizeSum backward parts
  | alt choices =>
    match choices.mapM word? with
    | some words =>
      let texts := words.map fun codes =>
        let bytes := codes.flatMap bytesOf
        if backward then bytes.reverse else bytes
      stateSize + wordsSize ((texts.map List.length).foldl max 0 + 1) texts
    | none => sizeSum backward choices + forkSize choices.length + stateSize

def sizeSum (backward : Bool) : List Plan → Nat
  | [] => 0
  | p :: rest => size backward p + sizeSum backward rest

end

/-- What stands before a plan: unless it can match at the first place only, a loop that
    skips bytes. -/
def leadSize (atEdge : Bool) : Nat :=
  if atEdge then stateSize else forkSize 2 + stateSize + tellingSize 1

def parts : Plan → List Plan
  | seq ps => ps
  | p => [p]

def isLook (l : Look) : Plan → Bool
  | look l' => l' == l
  | _ => false

end Plan

/-- The bytes that the larger of the two automata for an expression takes. -/
def Regex.size (r : Regex) : Nat :=
  let plan := Plan.ofRegex r
  let first := plan.parts.head?.any (Plan.isLook .textStart)
  let last := plan.parts.getLast?.any (Plan.isLook .textEnd)
  -- a group around the whole, only forwards, and a state for success
  max (plan.size false + Plan.leadSize first + 3 * Plan.stateSize)
    (plan.size true + Plan.leadSize last + Plan.stateSize)

end TemplateEngine.Pattern
