/-
  TemplateEngine.Pattern.Match — which parts of a text a regular expression describes.

  `ends` takes the places where a match may begin to the places where it may end. Places
  count the characters before them. An expression occurs in a text if a match that begins
  somewhere can end somewhere.
-/

import TemplateEngine.Pattern.Basic

namespace TemplateEngine.Pattern

/-- Whether there is a word character at an index of a text. -/
def isWordAt (unicode : Bool) (text : Array Char) (i : Nat) : Bool :=
  text[i]?.any fun c => (if unicode then CharSet.word else CharSet.asciiWord).has c.toNat

def isWordBefore (unicode : Bool) (text : Array Char) (i : Nat) : Bool :=
  i > 0 && isWordAt unicode text (i - 1)

def isCharBefore (c : Char) (text : Array Char) (i : Nat) : Bool := i > 0 && text[i - 1]? == some c

def Look.holds (text : Array Char) (i : Nat) : Look → Bool
  | textStart => i == 0
  | textEnd => i == text.size
  | lineStart => i == 0 || isCharBefore '\n' text i
  | lineEnd => i == text.size || text[i]? == some '\n'
  | anyLineStart =>
    i == 0 || isCharBefore '\n' text i || (isCharBefore '\r' text i && text[i]? != some '\n')
  | anyLineEnd =>
    i == text.size || text[i]? == some '\r' || (text[i]? == some '\n' && !isCharBefore '\r' text i)
  | wordBoundary u => isWordBefore u text i != isWordAt u text i
  | notWordBoundary u => isWordBefore u text i == isWordAt u text i
  | wordStart u => !isWordBefore u text i && isWordAt u text i
  | wordEnd u => isWordBefore u text i && !isWordAt u text i
  | wordStartHalf u => !isWordBefore u text i
  | wordEndHalf u => !isWordAt u text i

/-- The places of the second list added to the first. -/
def join (a b : List Nat) : List Nat := a ++ b.filter fun i => !a.contains i

/-- The places reached from `fresh` in at most `n` steps, and those in `seen`. -/
def reach (step : List Nat → List Nat) : Nat → List Nat → List Nat → List Nat
  | 0, seen, _ => seen
  | n + 1, seen, fresh =>
    let new := (step fresh).filter fun i => !seen.contains i
    if new.isEmpty then seen else reach step n (seen ++ new) new

/-- The places reached from `places` in exactly `n` steps. -/
def stepTimes (step : List Nat → List Nat) : Nat → List Nat → List Nat
  | 0, places => places
  | n + 1, places => if places.isEmpty then [] else stepTimes step n (step places)

namespace Regex

def ends (text : Array Char) : Regex → List Nat → List Nat
  | empty, places => places
  | char s, places =>
    places.filterMap fun i => if text[i]?.any fun c => s.has c.toNat then some (i + 1) else none
  | look l, places => places.filter fun i => l.holds text i
  | group r, places => ends text r places
  | seq a b, places => ends text b (ends text a places)
  | alt a b, places => join (ends text a places) (ends text b places)
  | copies r min max, places =>
    let first := stepTimes (fun ps => ends text r ps) min places
    reach (fun ps => ends text r ps) ((max.map (· - min)).getD (text.size + 1)) first first

/-- Whether the expression describes a part of the text. -/
def occursIn (r : Regex) (text : String) : Bool :=
  let chars := text.toList.toArray
  !(ends chars r (List.range (chars.size + 1))).isEmpty

end Regex

end TemplateEngine.Pattern
