/-
  TemplateEngine.Expr.Outline — an expression spelled out node by node, for messages about
  expressions that are out of place.

  A double is written in full from 1e-4 up to below 1e16, with `.0` if it is whole, and
  with an exponent elsewhere.
-/

import TemplateEngine.Decimal.Notation
import TemplateEngine.Expr.Basic
import TemplateEngine.Text.Quoted

namespace TemplateEngine

/-- How doubles are written in an outline. -/
def outlineStyle : Decimal.NumberStyle := { tie := .away, positional := some (-4, 16), plus := "" }

def outlineDouble (x : Double) : String :=
  match x.datum with
  | .nan => "NaN"
  | .infinite negative => if negative then "-inf" else "inf"
  | .finite negative m q =>
    let digits := if m = 0 then "0.0" else outlineStyle.text (Decimal.shortest outlineStyle.tie m q)
    if negative then "-" ++ digits else digits

/-- `Name(a, b)`. -/
def outlineCall (name : String) (args : List String) : String :=
  name ++ "(" ++ ", ".intercalate args ++ ")"

/-- `Name { a: b, c: d }`. -/
def outlineFields (name : String) (fields : List (String × String)) : String :=
  name ++ " \x7b " ++ ", ".intercalate (fields.map fun f => f.1 ++ ": " ++ f.2) ++ " \x7d"

def outlineList (items : List String) : String := "[" ++ ", ".intercalate items ++ "]"

def Literal.outline : Literal → String
  | null => "Null"
  | bool b => outlineCall "Bool" [if b then "true" else "false"]
  | int n => outlineCall "Int" [toString n.toInt]
  | float x => outlineCall "Float" [outlineDouble x]
  | char c => outlineCall "Char" [Text.quotedChar c]
  | string s => outlineCall "String" [Text.quoted s]

def Operator.outline : Operator → String
  | startsWith => "StartsWith"
  | endsWith => "EndsWith"
  | matching => "Matches"
  | isIn => "In"
  | or => "Or"
  | and => "And"
  | equal => "Equal"
  | different => "Different"
  | lessOrEqual => "LessOrEqual"
  | greaterOrEqual => "GreaterOrEqual"
  | less => "Less"
  | greater => "Greater"
  | add => "Add"
  | subtract => "Sub"
  | wholeDivide => "IntDiv"
  | wholeTimes => "IntTimes"
  | times => "Times"
  | divide => "Div"
  | remainder => "Mod"

namespace Expr

mutual

def outline : Expr → String
  | literal l => outlineCall "Literal" [l.outline]
  | list items => outlineCall "List" [outlineCall "Enumeration" [outlineList (outlines items)]]
  | intRange first last =>
    outlineCall "List" [outlineCall "IntRange" [toString first.toInt, toString last.toInt]]
  | charRange first last =>
    outlineCall "List" [outlineCall "CharRange" [Text.quotedChar first, Text.quotedChar last]]
  | map entries => outlineCall "Map" [outlineList (outlineEntries entries)]
  | var name => outlineCall "Variable" [Text.quoted name]
  | call name args =>
    outlineCall "FunctionCall" [outlineFields "FunctionCall"
      [("name", Text.quoted name), ("arguments", outlineList (outlines args))]]
  | select base steps =>
    outlineCall "Selection" [outlineFields "Selection"
      [("base", outline base), ("steps", outlineList (outlines steps))]]
  | entry name key =>
    outlineCall "MapSelection" [outlineFields "MapSelection"
      [("variable", Text.quoted name), ("key", Text.quoted key)]]
  | pipe base stages =>
    outlineCall "Composition" [outlineFields "Composition"
      [("base", outline base), ("stages", outlineList (outlines stages))]]
  | chain operands operators =>
    outlineCall "Binary" [outlineFields "BinaryOperation"
      [("operands", outlineList (outlines operands)),
        ("operators", outlineList (operators.map Operator.outline))]]
  | not operand =>
    outlineCall "Unary" [outlineFields "UnaryOperation"
      [("operator", "Not"), ("operand", outline operand)]]
  | ternary condition yes no =>
    outlineCall "Ternary" [outlineFields "Ternary"
      [("condition", outline condition), ("if_true", outline yes), ("if_false", outline no)]]

def outlines : List Expr → List String
  | [] => []
  | e :: es => outline e :: outlines es

def outlineEntries : List (String × Expr) → List String
  | [] => []
  | (key, e) :: rest => outlineCall "" [Text.quoted key, outline e] :: outlineEntries rest

end

end Expr

end TemplateEngine
