/-
  TemplateEngine.Proofs.Expression.WellFormed — the shapes that parsed expressions have.
-/

import TemplateEngine.Proofs.Expression.Print

namespace TemplateEngine.Expr

open Operator (Level)

/-- A chain has operands to combine and operators of one level between them, a selection
    has steps and a pipe has stages, every name is one, and no literal is a character. -/
inductive WellFormed : Expr → Prop
  | literal {l : Literal} : (∀ c, l ≠ .char c) → WellFormed (literal l)
  | list {items : List Expr} : (∀ e ∈ items, WellFormed e) → WellFormed (list items)
  | intRange (first last : Int64) : WellFormed (intRange first last)
  | charRange {first last : Char} : Scan.isAsciiLetter first = true → Scan.isAsciiLetter last = true →
      WellFormed (charRange first last)
  | map {entries : List (String × Expr)} : (∀ m ∈ entries, WellFormed m.2) → WellFormed (map entries)
  | var {name : String} : Scan.isName name = true → WellFormed (var name)
  | call {name : String} {args : List Expr} : Scan.isName name = true → (∀ e ∈ args, WellFormed e) →
      WellFormed (call name args)
  | entry {name : String} (key : String) : Scan.isName name = true → WellFormed (entry name key)
  | select {base : Expr} {steps : List Expr} : WellFormed base → steps ≠ [] →
      (∀ e ∈ steps, WellFormed e) → (∀ e ∈ steps, e.isStep = true) → WellFormed (select base steps)
  | pipe {base : Expr} {stages : List Expr} : WellFormed base → stages ≠ [] →
      (∀ e ∈ stages, WellFormed e) → (∀ e ∈ stages, e.isStage = true) → WellFormed (pipe base stages)
  | chain {operands : List Expr} {operators : List Operator} (l : Level) : (∀ e ∈ operands, WellFormed e) →
      2 ≤ operands.length → operands.length = operators.length + 1 → (∀ op ∈ operators, op ∈ l.operators) →
      WellFormed (chain operands operators)
  | not {operand : Expr} : WellFormed operand → WellFormed (not operand)
  | ternary {condition yes no : Expr} : WellFormed condition → WellFormed yes → WellFormed no →
      WellFormed (ternary condition yes no)

end TemplateEngine.Expr
