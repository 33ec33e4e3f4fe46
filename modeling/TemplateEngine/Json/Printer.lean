/-
  TemplateEngine.Json.Printer — writing values as JSON.

  Everything stands without blanks, the members of a map in their order. Control
  characters, quotes and backslashes are escaped, the usual ones by a letter. A double is
  written in full from 1e-5 up to below 1e16 and with an exponent elsewhere, a tie between
  two shortest decimals going to the even digit; one that is no number is written as null.
-/

import TemplateEngine.Decimal.Notation
import TemplateEngine.Json.Data

namespace TemplateEngine

/-- How doubles are written in JSON. -/
def jsonStyle : Decimal.NumberStyle := { tie := .toEven, positional := some (-5, 16) }

namespace Json

def hexDigit (n : Nat) : Char := Char.ofNat (if n < 10 then n + 48 else n + 87)

def escaped (c : Char) : List Char :=
  match c with
  | '"' => ['\\', '"']
  | '\\' => ['\\', '\\']
  | '\x08' => ['\\', 'b']
  | '\x0c' => ['\\', 'f']
  | '\n' => ['\\', 'n']
  | '\r' => ['\\', 'r']
  | '\t' => ['\\', 't']
  | c =>
    if c.toNat < 0x20 then ['\\', 'u', '0', '0', hexDigit (c.toNat / 16), hexDigit (c.toNat % 16)]
    else [c]

def quoted (s : String) : String := "\"" ++ String.ofList (s.toList.flatMap escaped) ++ "\""

def doubleText (x : Double) : String :=
  match x.datum with
  | .finite negative m q =>
    let digits := if m = 0 then "0.0" else jsonStyle.text (Decimal.shortest jsonStyle.tie m q)
    if negative then "-" ++ digits else digits
  | _ => "null"

end Json

namespace Value

mutual

def json : Value → String
  | null => "null"
  | bool b => if b then "true" else "false"
  | int n => toString n.toInt
  | float x => Json.doubleText x
  | char c => Json.quoted c.toString
  | string s => Json.quoted s
  | list items => "[" ++ ",".intercalate (jsonItems items) ++ "]"
  | map entries => "\x7b" ++ ",".intercalate (jsonEntries entries) ++ "\x7d"

def jsonItems : List Value → List String
  | [] => []
  | v :: vs => json v :: jsonItems vs

def jsonEntries : List (String × Value) → List String
  | [] => []
  | (key, v) :: rest => (Json.quoted key ++ ":" ++ json v) :: jsonEntries rest

end

end Value

/-- Every value has a text. -/
def Json.encode : Json.Encoder := fun v => .ok v.json

end TemplateEngine
