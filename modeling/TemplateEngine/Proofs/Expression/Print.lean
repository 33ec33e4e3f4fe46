/-
  TemplateEngine.Proofs.Expression.Print — expressions written as text.

  An operand stands in parentheses only where it would not be read as that operand without
  them: it is looser than its place allows, or it is a choice (`value ? yes : no`) whose
  last branch would take in what follows. More parentheses may be asked for, at any place
  where an expression may stand.

  `Printable` are the expressions that some text is read as. Doubles are left out.
-/

import TemplateEngine.Proofs.Grammar.Looseness
import TemplateEngine.Value.Text

namespace TemplateEngine

/-! ## How loose an expression is -/

namespace Expr

open Operator (Level)

/-- How loosely an expression holds its parts together: a value alone not at all, a chain
    of tests the most. -/
def looseness : Expr → Nat
  | select _ _ => 1
  | pipe _ _ => 2
  | ternary _ _ _ => 3
  | chain _ operators => (Level.ofOperators operators).looseness
  | not _ => 6
  | _ => 0

def isTernary : Expr → Bool
  | ternary _ _ _ => true
  | _ => false

/-- Where an expression stands. -/
structure Place where
  /-- How loose it may be there. -/
  bound : Nat
  /-- Nothing follows that its last part could take in. -/
  last : Bool

/-- Between brackets, commas and colons, any expression may stand. -/
def Place.free : Place := ⟨11, true⟩

def Place.base : Place := ⟨0, false⟩
def Place.piped : Place := ⟨1, false⟩
def Place.condition : Place := ⟨2, false⟩
def Place.negated (last : Bool) : Place := ⟨5, last⟩
def Place.operand (l : Level) (last : Bool) : Place := ⟨l.looseness - 1, last⟩

def needsParentheses (place : Place) (e : Expr) : Bool :=
  decide (place.bound < e.looseness) || (e.isTernary && !place.last)

/-! ## Writing -/

/-- Texts with a comma and a blank between them. -/
def separated : List (List Char) → List Char
  | [] => []
  | text :: texts => text ++ texts.flatMap (',' :: ' ' :: ·)

def integerText (n : Int64) : List Char := (toString n.toInt).toList

def literalText : Literal → List Char
  | .null => "null".toList
  | .bool b => if b then "true".toList else "false".toList
  | .int n => integerText n
  | .float x => (doubleText x).toList
  | .char c => ['\'', c, '\'']
  | .string s => Scan.quoted '"' s

/-- Puts an expression at a place; `bare` is its text without parentheses around it, given
    whether that text is the last. -/
def placed (extra : Place → Expr → Bool) (place : Place) (e : Expr) (bare : Bool → List Char) : List Char :=
  if needsParentheses place e || extra place e then '(' :: (bare true ++ [')']) else bare place.last

section

variable (extra : Place → Expr → Bool)

mutual

/-- The text of an expression without parentheses around it; `extra` asks for parentheses
    inside that are not needed. -/
def bare (last : Bool) : Expr → List Char
  | literal l => literalText l
  | list items => '[' :: (separated (texts items) ++ [']'])
  | intRange first final => integerText first ++ '.' :: '.' :: integerText final
  | charRange first final => ['\'', first, '\'', '.', '.', '\'', final, '\'']
  | map entries => '\x7b' :: (separated (entryTexts entries) ++ ['\x7d'])
  | var name => name.toList
  | call name args => name.toList ++ '(' :: (separated (texts args) ++ [')'])
  | entry name key => name.toList ++ '[' :: (Scan.quoted '"' key ++ [']'])
  | select base steps => placed extra .base base (bare · base) ++ (bareTexts steps).flatMap ('.' :: ·)
  | pipe base stages => placed extra .piped base (bare · base) ++ (bareTexts stages).flatMap (" | ".toList ++ ·)
  | chain operands operators => chained (Level.ofOperators operators) last operands operators
  | not operand => "not ".toList ++ placed extra (.negated last) operand (bare · operand)
  | ternary condition yes no =>
    placed extra .condition condition (bare · condition) ++ " ? ".toList ++
      placed extra .free yes (bare · yes) ++ " : ".toList ++ placed extra .free no (bare · no)

/-- Operands with the operators between them. -/
def chained (l : Level) (last : Bool) : List Expr → List Operator → List Char
  | [], _ => []
  | e :: _, [] => placed extra (.operand l last) e (bare · e)
  | e :: rest, op :: operators =>
    placed extra (.operand l false) e (bare · e) ++
      ' ' :: (op.symbol.toList ++ ' ' :: chained l last rest operators)

def texts : List Expr → List (List Char)
  | [] => []
  | e :: es => placed extra .free e (bare · e) :: texts es

def bareTexts : List Expr → List (List Char)
  | [] => []
  | e :: es => bare true e :: bareTexts es

def entryTexts : List (String × Expr) → List (List Char)
  | [] => []
  | (key, e) :: rest =>
    (Scan.quoted '"' key ++ ':' :: ' ' :: placed extra .free e (bare · e)) :: entryTexts rest

end

/-- The text of an expression at a place. -/
def written (place : Place) (e : Expr) : List Char := placed extra place e (bare extra · e)

def print (e : Expr) : String := String.ofList (written extra .free e)

theorem texts_eq_map (es : List Expr) : texts extra es = es.map (written extra .free) := by
  induction es with
  | nil => rfl
  | cons e es ih => rw [List.map_cons, ← ih]; rfl

theorem bareTexts_eq_map (es : List Expr) : bareTexts extra es = es.map (bare extra true) := by
  induction es with
  | nil => rfl
  | cons e es ih => rw [List.map_cons, ← ih]; rfl

def entryText (m : String × Expr) : List Char :=
  Scan.quoted '"' m.1 ++ ':' :: ' ' :: written extra .free m.2

theorem entryTexts_eq_map (entries : List (String × Expr)) :
    entryTexts extra entries = entries.map (entryText extra) := by
  induction entries with
  | nil => rfl
  | cons m entries ih => rw [List.map_cons, ← ih]; rfl

/-! ## The text of each form -/

variable (last : Bool)

theorem bare_list (items : List Expr) :
    bare extra last (.list items) = '[' :: (separated (texts extra items) ++ [']']) := rfl

theorem bare_intRange (first final : Int64) :
    bare extra last (.intRange first final) = integerText first ++ '.' :: '.' :: integerText final := rfl

theorem bare_map (entries : List (String × Expr)) :
    bare extra last (.map entries) = '\x7b' :: (separated (entryTexts extra entries) ++ ['\x7d']) := rfl

theorem bare_var (name : String) : bare extra last (.var name) = name.toList := rfl

theorem bare_call (name : String) (args : List Expr) :
    bare extra last (.call name args) =
      name.toList ++ '(' :: (separated (texts extra args) ++ [')']) := rfl

theorem bare_entry (name key : String) :
    bare extra last (.entry name key) = name.toList ++ '[' :: (Scan.quoted '"' key ++ [']']) := rfl

theorem bare_select (base : Expr) (steps : List Expr) :
    bare extra last (.select base steps) =
      written extra .base base ++ steps.flatMap fun e => ['.'] ++ bare extra true e := by
  show _ ++ (bareTexts extra steps).flatMap _ = _
  rw [bareTexts_eq_map, List.flatMap_map]
  rfl

theorem bare_pipe (base : Expr) (stages : List Expr) :
    bare extra last (.pipe base stages) =
      written extra .piped base ++ stages.flatMap fun e => " | ".toList ++ bare extra true e := by
  show _ ++ (bareTexts extra stages).flatMap _ = _
  rw [bareTexts_eq_map, List.flatMap_map]
  rfl

theorem bare_chain (operands : List Expr) (operators : List Operator) :
    bare extra last (.chain operands operators) =
      chained extra (Level.ofOperators operators) last operands operators := rfl

theorem bare_not (operand : Expr) :
    bare extra last (.not operand) = "not".toList ++ ' ' :: written extra (.negated last) operand := rfl

theorem bare_ternary (condition yes no : Expr) :
    bare extra last (.ternary condition yes no) = written extra .condition condition ++
      ' ' :: '?' :: ' ' :: (written extra .free yes ++ ' ' :: ':' :: ' ' :: written extra .free no) := by
  show written extra .condition condition ++ " ? ".toList ++ written extra .free yes ++ " : ".toList ++
    written extra .free no = _
  simp only [List.append_assoc]
  rfl

end

/-! ## The expressions that have a text -/

/-- A step of a selection: a property, a call or a fixed key of a property. -/
def isStep : Expr → Bool
  | var _ | call _ _ | entry _ _ => true
  | _ => false

/-- A stage of a pipe: a function, with arguments or without. -/
def isStage : Expr → Bool
  | var _ | call _ _ => true
  | _ => false

inductive Printable : Expr → Prop
  | null : Printable (literal .null)
  | bool (b : Bool) : Printable (literal (.bool b))
  | int (n : Int64) : Printable (literal (.int n))
  | string (s : String) : Printable (literal (.string s))
  | list {items : List Expr} : (∀ e ∈ items, Printable e) → Printable (list items)
  | intRange (first final : Int64) : Printable (intRange first final)
  | charRange {first final : Char} :
      Scan.isAsciiLetter first = true → Scan.isAsciiLetter final = true → Printable (charRange first final)
  | map {entries : List (String × Expr)} : (∀ m ∈ entries, Printable m.2) → Printable (map entries)
  | var {name : String} : Scan.isName name = true → Printable (var name)
  | call {name : String} {args : List Expr} :
      Scan.isName name = true → (∀ e ∈ args, Printable e) → Printable (call name args)
  | entry {name : String} (key : String) : Scan.isName name = true → Printable (entry name key)
  | select {base : Expr} {steps : List Expr} : Printable base → steps ≠ [] →
      (∀ e ∈ steps, Printable e) → (∀ e ∈ steps, e.isStep = true) → Printable (select base steps)
  | pipe {base : Expr} {stages : List Expr} : Printable base → stages ≠ [] →
      (∀ e ∈ stages, Printable e) → (∀ e ∈ stages, e.isStage = true) → Printable (pipe base stages)
  | chain {operands : List Expr} {operators : List Operator} (l : Level) : (∀ e ∈ operands, Printable e) →
      operators ≠ [] → (∀ op ∈ operators, op ∈ l.operators) → operands.length = operators.length + 1 →
      Printable (chain operands operators)
  | not {operand : Expr} : Printable operand → Printable (not operand)
  | ternary {condition yes no : Expr} :
      Printable condition → Printable yes → Printable no → Printable (ternary condition yes no)

end Expr

end TemplateEngine
