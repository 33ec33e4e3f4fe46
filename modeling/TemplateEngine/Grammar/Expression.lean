/-
  TemplateEngine.Grammar.Expression — the grammar of expressions.

  A rule is given what is left of the source. It answers with a fault, or with what it has
  read, if something of its kind starts there, and what is left then. What it has read
  includes the spacing behind it. Where nothing of its kind starts it leaves off where it
  began: a rule that has read further by then goes back.

  From the loosest level on: `startsWith endsWith matches in`, `or`, `and`, `== !=`,
  `<= >= < >` (an operand may be negated with `not`), `+ -`, `// ** * / %`, then
  `value ? yes : no`, then a value with its `.step`s and `| stage`s. An operator that no
  operand follows is left unread, so that the `%` of a closing mark is no remainder.

  Rules refer to each other only after at least one character has been read. So the
  number of characters left bounds the nesting: `expressionUpTo n` reads any expression
  of a text of at most `n` characters, and with no characters left there is none to read.
-/

import TemplateEngine.Expr.Basic
import TemplateEngine.Scan.Number
import TemplateEngine.Scan.StringLiteral

namespace TemplateEngine.Grammar

open Scan

abbrev Rule (α : Type) := List Char → Except Fault (Option α × List Char)

/-- The rule must apply here. -/
def required (rule : Rule Expr) (s : List Char) : Except Fault (Expr × List Char) := do
  match ← rule s with
  | (some e, rest) => return (e, rest)
  | (none, rest) => throw (.since .expectingExpression s rest)

/-- A symbol must stand at `rest`; the text from `start` on is quoted otherwise. -/
def requiredSymbol (text : String) (start rest : List Char) : Except Fault (List Char) :=
  match symbol? text rest with
  | some rest => .ok rest
  | none => .error (.since (.expected ("'" ++ text ++ "'")) start rest)

/-! ## Chains of operators -/

def operator? (operators : List Operator) (s : List Char) : Option (Operator × List Char) :=
  operators.findSome? fun op =>
    (if op.isWord then keyword? op.symbol s else symbol? op.symbol s).map (op, ·)

/-- At most `n` operators, each with its operand. -/
def chainTail (operators : List Operator) (operand : Rule Expr) :
    Nat → List Char → Except Fault (List (Operator × Expr) × List Char)
  | 0, s => .ok ([], s)
  | n + 1, s =>
    match operator? operators s with
    | none => .ok ([], s)
    | some (op, rest) => do
      match ← operand rest with
      | (none, _) => return ([], s)
      | (some e, rest) =>
        let (more, rest) ← chainTail operators operand n rest
        return ((op, e) :: more, rest)

/-- An operand alone is itself; with others it heads a chain. -/
def joined (first : Expr) (more : List (Operator × Expr)) : Expr :=
  if more.isEmpty then first else .chain (first :: more.map (·.2)) (more.map (·.1))

def level (l : Operator.Level) (operand : Rule Expr) : Rule Expr := fun s => do
  match ← operand s with
  | (none, rest) => return (none, rest)
  | (some first, rest) =>
    let (more, rest) ← chainTail l.operators operand rest.length rest
    return (some (joined first more), rest)

/-- An operand of a relation: negated or not. -/
def negatable (operand : Rule Expr) : Rule Expr := fun s =>
  match keyword? "not" s with
  | none => operand s
  | some rest => do
    match ← operand rest with
    | (some e, rest) => return (some (.not e), rest)
    | (none, rest) => throw (.since .expectingExpression s rest)

/-- All levels of operators over the tightest operands. -/
def levels (operand : Rule Expr) : Rule Expr :=
  level .test <| level .disjunction <| level .conjunction <| level .equality <|
    level .relation <| negatable <| level .sum <| level .product operand

/-! ## Parts shared by several forms -/

/-- Further members of a list, each after a comma. -/
def afterCommas (expr : Rule Expr) : Nat → List Char → Except Fault (List Expr × List Char)
  | 0, s => .ok ([], s)
  | n + 1, s =>
    match symbol? "," s with
    | none => .ok ([], s)
    | some rest => do
      let (e, rest) ← required expr rest
      let (more, rest) ← afterCommas expr n rest
      return (e :: more, rest)

/-- Expressions between an opening and a closing symbol, separated by commas. -/
def enclosed (opening closing : String) (expr : Rule Expr) : Rule (List Expr) := fun s =>
  match symbol? opening s with
  | none => .ok (none, s)
  | some rest =>
    match symbol? closing rest with
    | some rest => .ok (some [], rest)
    | none => do
      let (first, rest) ← required expr rest
      let (more, rest) ← afterCommas expr rest.length rest
      let rest ← requiredSymbol closing s rest
      return (some (first :: more), rest)

def arguments (expr : Rule Expr) : Rule (List Expr) := enclosed "(" ")" expr

/-- A fixed key in brackets, behind the name of a map. -/
def fixedKey : Rule String := fun s =>
  match symbol? "[" s with
  | none => .ok (none, s)
  | some rest => do
    match ← string? rest with
    | (none, _) => return (none, s)
    | (some key, rest) =>
      match symbol? "]" (skipSpacing rest) with
      | some rest => return (some key, rest)
      | none => return (none, s)

/-! ## Literals -/

/-- Two bounds with `..` between them. -/
def range {α : Type} (bound : Scanner α) : Scanner (α × α) := fun s =>
  match bound s with
  | (none, rest) => (none, rest)
  | (some first, rest) =>
    match symbol? ".." (skipSpacing rest) with
    | none => (none, s)
    | some rest =>
      match bound rest with
      | (none, _) => (none, s)
      | (some last, rest) => (some (first, last), skipSpacing rest)

def listLiteral (expr : Rule Expr) : Rule Expr := fun s =>
  match range integer s with
  | (some (first, last), rest) => .ok (some (.intRange first last), rest)
  | (none, s) =>
    match range letter s with
    | (some (first, last), rest) => .ok (some (.charRange first last), rest)
    | (none, s) => do
      let (items, rest) ← enclosed "[" "]" expr s
      return (items.map .list, rest)

def mapKey : Rule String := fun s =>
  match identifier? s with
  | some (name, rest) => .ok (some name, rest)
  | none => string? s

/-- The entries of a map whose opening brace stands at `start`, at most `n`. -/
def mapEntries (expr : Rule Expr) (start : List Char) :
    Nat → List Char → Except Fault (List (String × Expr) × List Char)
  | 0, s => .error (.since (.expected "map key") start s)
  | n + 1, s => do
    match ← mapKey s with
    | (none, rest) => throw (.since (.expected "map key") start rest)
    | (some key, rest) =>
      let rest ← requiredSymbol ":" start (skipSpacing rest)
      let (e, rest) ← required expr rest
      match symbol? "," rest with
      | some rest =>
        let (more, rest) ← mapEntries expr start n rest
        return ((key, e) :: more, rest)
      | none =>
        let rest ← requiredSymbol "\x7d" start rest
        return ([(key, e)], rest)

def mapLiteral (expr : Rule Expr) : Rule Expr := fun s =>
  match symbol? "\x7b" s with
  | none => .ok (none, s)
  | some rest =>
    match symbol? "\x7d" rest with
    | some rest => .ok (some (.map []), rest)
    | none => do
      let (entries, rest) ← mapEntries expr s (rest.length + 1) rest
      return (some (.map entries), rest)

/-- The first of two rules that applies. -/
def orElse {α : Type} (first second : Rule α) : Rule α := fun s => do
  match ← first s with
  | (some x, rest) => return (some x, rest)
  | (none, rest) => second rest

/-- A literal that is a word. -/
def wordLiteral (word : String) (literal : Literal) : Rule Literal := fun s =>
  match keyword? word s with
  | some rest => .ok (some literal, rest)
  | none => .ok (none, s)

/-- A literal that is a number. -/
def numeral {α : Type} (scan : Scanner α) (literal : α → Literal) : Rule Literal := fun s =>
  match scan s with
  | (some x, rest) => .ok (some (literal x), skipSpacing rest)
  | (none, rest) => .ok (none, rest)

def quotedLiteral : Rule Literal := fun s => do
  match ← string? s with
  | (some text, rest) => return (some (.string text), skipSpacing rest)
  | (none, rest) => return (none, rest)

def scalar : Rule Literal :=
  orElse quotedLiteral <| orElse (wordLiteral "true" (.bool true)) <|
    orElse (wordLiteral "false" (.bool false)) <| orElse (numeral double .float) <|
      orElse (numeral integer .int) (wordLiteral "null" .null)

/-! ## Names -/

/-- What may stand behind a name that has been read: arguments in parentheses make it a call. -/
def called (expr : Rule Expr) (name : String) (s : List Char) : Except Fault (Option Expr × List Char) := do
  match ← arguments expr s with
  | (some args, rest) => return (some (.call name args), rest)
  | (none, rest) => return (some (.var name), skipSpacing rest)

/-- A call with arguments in parentheses, or a bare name. -/
def functionReference (expr : Rule Expr) : Rule Expr := fun s =>
  match identifier? s with
  | none => .ok (none, s)
  | some (name, rest) => called expr name rest

/-- A step into a value: a fixed key of a property, a call, or a property. -/
def selectionStep (expr : Rule Expr) : Rule Expr := fun s =>
  match identifier? s with
  | none => .ok (none, s)
  | some (name, rest) => do
    match ← fixedKey rest with
    | (some key, rest) => return (some (.entry name key), rest)
    | (none, rest) => called expr name rest

/-- A name as a value: with a fixed key, with arguments, with one argument written right
    behind it, or alone. A minus behind a name is an operator, not an argument. -/
def named (primary expr : Rule Expr) : Rule Expr := fun s =>
  match identifier? s with
  | none => .ok (none, s)
  | some (name, rest) => do
    match ← fixedKey rest with
    | (some key, rest) => return (some (.entry name key), rest)
    | (none, rest) =>
      match ← arguments expr rest with
      | (some args, rest) => return (some (.call name args), rest)
      | (none, rest) =>
        let rest := skipSpacing rest
        if rest.head? = some '-' then return (some (.var name), rest)
        else
          match ← primary rest with
          | (some argument, rest) => return (some (.call name [argument]), rest)
          | (none, _) => return (some (.var name), rest)

/-! ## Values with steps and stages -/

/-- At most `n` parts, each behind a symbol; a symbol that no part follows is left unread. -/
def parts (opening : List Char → Option (List Char)) (part : Rule Expr) :
    Nat → List Char → Except Fault (List Expr × List Char)
  | 0, s => .ok ([], s)
  | n + 1, s =>
    match opening s with
    | none => .ok ([], s)
    | some rest => do
      match ← part rest with
      | (none, _) => return ([], s)
      | (some e, rest) =>
        let (more, rest) ← parts opening part n rest
        return (e :: more, rest)

/-- A point that does not begin a range. -/
def point? (s : List Char) : Option (List Char) :=
  if (mark? ".." s).isSome then none else symbol? "." s

def withSteps (expr : Rule Expr) (base : Expr) (s : List Char) : Except Fault (Expr × List Char) := do
  let (steps, rest) ← parts point? (selectionStep expr) s.length s
  return (if steps.isEmpty then base else .select base steps, rest)

def withStages (expr : Rule Expr) (base : Expr) (s : List Char) : Except Fault (Expr × List Char) := do
  let (stages, rest) ← parts (symbol? "|") (functionReference expr) s.length s
  return (if stages.isEmpty then base else .pipe base stages, rest)

def literal : Rule Expr := fun s => do
  let (l, rest) ← scalar s
  return (l.map .literal, rest)

def basic (primary expr : Rule Expr) : Rule Expr :=
  orElse (listLiteral expr) <| orElse (mapLiteral expr) <| orElse literal (named primary expr)

def parenthesized (expr : Rule Expr) : Rule Expr := fun s =>
  match symbol? "(" s with
  | none => .ok (none, s)
  | some rest => do
    let (inner, rest) ← required expr rest
    let rest ← requiredSymbol ")" s rest
    return (some inner, rest)

def primaryRule (primary expr : Rule Expr) : Rule Expr := fun s => do
  match ← orElse (parenthesized expr) (basic primary expr) s with
  | (none, rest) => return (none, rest)
  | (some base, rest) =>
    let (selected, rest) ← withSteps expr base rest
    let (piped, rest) ← withStages expr selected rest
    return (some piped, rest)

def ternaryRule (primary expr : Rule Expr) : Rule Expr := fun s => do
  match ← primary s with
  | (none, rest) => return (none, rest)
  | (some condition, rest) =>
    match symbol? "?" rest with
    | none => return (some condition, rest)
    | some rest =>
      let (yes, rest) ← required expr rest
      let rest ← requiredSymbol ":" s rest
      let (no, rest) ← required expr rest
      return (some (.ternary condition yes no), rest)

/-! ## Tying the rules together -/

mutual

/-- A value with its steps and stages, in a text of at most `n` characters. -/
def primaryUpTo : Nat → Rule Expr
  | 0, s => .ok (none, s)
  | n + 1, s => primaryRule (primaryUpTo n) (expressionUpTo n) s

/-- An expression, in a text of at most `n` characters. -/
def expressionUpTo : Nat → Rule Expr
  | 0, s => .ok (none, s)
  | n + 1, s =>
    levels (ternaryRule (primaryRule (primaryUpTo n) (expressionUpTo n)) (expressionUpTo n)) s

end

/-- Reads an expression if one starts here. -/
def expression : Rule Expr := fun s => expressionUpTo s.length s

end TemplateEngine.Grammar

namespace TemplateEngine

/-- Reads an expression that stands alone, with spacing around it. -/
def Expr.parse (source : String) : Except ParseError Expr :=
  let start := Scan.skipSpacing source.toList
  let read : Except Fault Expr := do
    let (e, rest) ← Grammar.required Grammar.expression start
    if rest.isEmpty then return e
    else throw (.since (.expected "end of expression") start rest)
  read.mapError (Fault.toParseError source.toList)

end TemplateEngine
