/-
  TemplateEngine.Expr.Basic — expressions of a template.
-/

import TemplateEngine.Double.Basic
import TemplateEngine.Operator.Basic

namespace TemplateEngine

inductive Literal where
  | null
  | bool (b : Bool)
  | int (n : Int64)
  | float (x : Double)
  | char (c : Char)
  | string (s : String)

inductive Expr where
  | literal (l : Literal)
  | list (items : List Expr)
  | intRange (first last : Int64)
  | charRange (first last : Char)
  /-- Entries in the order written; a key may repeat. -/
  | map (entries : List (String × Expr))
  | var (name : String)
  | call (name : String) (args : List Expr)
  /-- A value and the steps that lead into it. -/
  | select (base : Expr) (steps : List Expr)
  /-- The entry of a map variable under a fixed key. -/
  | entry (name : String) (key : String)
  /-- A value and the functions it is passed through. -/
  | pipe (base : Expr) (stages : List Expr)
  /-- Operands with the operators between them, applied from the left. -/
  | chain (operands : List Expr) (operators : List Operator)
  | not (operand : Expr)
  | ternary (condition yes no : Expr)

end TemplateEngine
