/-
  TemplateEngine.Value.Text — how values are written into the output.

  Null is written as nothing, a list as `[a, b]`, a map as `{key=value}`. A whole double
  is written with all its digits and `.0`, any other as the shortest decimal that reads
  back, and never with an exponent; a tie between two such decimals goes away from zero.

  A value comes to the output in pieces, of which a number is one, and the output may refuse
  any of them.
-/

import TemplateEngine.Decimal.Notation
import TemplateEngine.Value.Basic

namespace TemplateEngine

/-- Doubles in the output are written in full. -/
def outputStyle : Decimal.NumberStyle := { tie := .away, positional := none }

def doubleText (x : Double) : String :=
  match x.datum with
  | .nan => "NaN"
  | .infinite negative => if negative then "-inf" else "inf"
  | .finite negative m q =>
    let (p, d) := Double.powTwo q
    let digits :=
      if m * p % d = 0 then toString (m * p / d) ++ ".0"
      else outputStyle.text (Decimal.shortest outputStyle.tie m q)
    if negative then "-" ++ digits else digits

namespace Value

mutual

def text : Value → String
  | null => ""
  | bool b => if b then "true" else "false"
  | int n => toString n.toInt
  | float x => doubleText x
  | char c => c.toString
  | string s => s
  | list items => "[" ++ ", ".intercalate (texts items) ++ "]"
  | map entries => "\x7b" ++ ", ".intercalate (entryTexts entries) ++ "\x7d"

def texts : List Value → List String
  | [] => []
  | v :: vs => text v :: texts vs

def entryTexts : List (String × Value) → List String
  | [] => []
  | (key, v) :: rest => (key ++ "=" ++ text v) :: entryTexts rest

end

mutual

/-- The pieces that a value is written in: brackets, separators, keys and what is between
    them. Null has none. -/
def pieces : Value → List String
  | null => []
  | list items => ["["] ++ [", "].intercalate (piecesOfEach items) ++ ["]"]
  | map entries => ["\x7b"] ++ [", "].intercalate (piecesOfEntries entries) ++ ["\x7d"]
  | single => [text single]

def piecesOfEach : List Value → List (List String)
  | [] => []
  | v :: vs => pieces v :: piecesOfEach vs

def piecesOfEntries : List (String × Value) → List (List String)
  | [] => []
  | (key, v) :: rest => (key :: "=" :: pieces v) :: piecesOfEntries rest

end

end Value

end TemplateEngine
