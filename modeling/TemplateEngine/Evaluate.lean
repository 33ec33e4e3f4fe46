/-
  TemplateEngine.Evaluate — the values of expressions.

  Operands, items, entries and arguments are evaluated from the left, and the first
  failure is the failure of the whole. A variable nobody defined is null, or an error when
  the environment is strict.
-/

import TemplateEngine.Environment
import TemplateEngine.Expr.Outline
import TemplateEngine.Scope

namespace TemplateEngine

abbrev Calculation := Except CalculateError Value

def Literal.value : Literal → Value
  | null => .null
  | bool b => .bool b
  | int n => .int n
  | float x => .float x
  | char c => .char c
  | string s => .string s

namespace Value

/-- A property of a map, which has to be there. -/
def property (v : Value) (name : String) : Calculation :=
  match v with
  | map entries =>
    match Table.get? name entries with
    | some found => .ok found
    | none => .error (.unknownProperty name v.kindName)
  | _ => .error (.unknownProperty name v.kindName)

/-- The entry of a map under a key, null if there is none. -/
def entryAt (v : Value) (key : String) : Calculation :=
  match v with
  | map entries => .ok ((Table.get? key entries).getD null)
  | _ => .error (.unknownProperty key v.kindName)

end Value

/-! ## Ranges -/

/-- The whole numbers from `low` up to `high`, both included. -/
def upward (low high : Int) : List Int := (List.range (high + 1 - low).toNat).map fun (i : Nat) => low + i

/-- The whole numbers from one bound to the other; downward they are those upward, reversed. -/
def steps (first last : Int) : List Int :=
  if first ≤ last then upward first last else (upward last first).reverse

/-- A range from `first` to `last` must not have more than `max` elements. -/
def checkRange (max : Nat) (first last : Int) (firstText lastText : String) :
    Except CalculateError Unit :=
  if (last - first).natAbs ≥ max then .error (.rangeTooLarge firstText lastText max) else .ok ()

def intRange (max : Nat) (first last : Int64) : Calculation := do
  checkRange max first.toInt last.toInt (toString first.toInt) (toString last.toInt)
  return .list ((steps first.toInt last.toInt).map fun n => .int (Int64.ofInt n))

/-- The characters from one to the other; the codes of surrogates are no characters. -/
def charRange (max : Nat) (first last : Char) : Calculation := do
  checkRange max first.toNat last.toNat first.toString last.toString
  return .list ((steps first.toNat last.toNat).filterMap fun n =>
    (Scan.charOfCode? n.toNat).map .char)

/-! ## Names -/

namespace Environment

def readVariable (env : Environment) (scope : Scope) (name : String) : Calculation :=
  match scope.lookup name with
  | some v => .ok v
  | none => if env.config.strictVariables then .error (.unresolvedVariable name) else .ok .null

def call (env : Environment) (name : String) (args : List Value) : Calculation :=
  match env.functions.get? name with
  | some f => (f args).mapError (.function name)
  | none => .error (.unknownFunction name)

/-! ## Expressions -/

mutual

def evaluate (env : Environment) (scope : Scope) : Expr → Calculation
  | .literal l => .ok l.value
  | .list items => do return .list (← evaluateAll env scope items)
  | .intRange first last => intRange env.config.maxRangeLength first last
  | .charRange first last => charRange env.config.maxRangeLength first last
  | .map entries => do return .map (Table.ofEntries (← evaluateEntries env scope entries))
  | .var name => readVariable env scope name
  | .call name args => do call env name (← evaluateAll env scope args)
  | .select base steps => do follow env scope (← evaluate env scope base) steps
  | .entry name key => do (← readVariable env scope name).entryAt key
  | .pipe base stages => do passThrough env scope (← evaluate env scope base) stages
  | .chain operands operators => evaluateChain env scope operands operators
  | .not operand => do return .bool (!(← evaluate env scope operand).isTruthy)
  | .ternary condition yes no => do
    if (← evaluate env scope condition).isTruthy then evaluate env scope yes
    else evaluate env scope no

def evaluateAll (env : Environment) (scope : Scope) : List Expr → Except CalculateError (List Value)
  | [] => .ok []
  | e :: es => do
    let v ← evaluate env scope e
    return v :: (← evaluateAll env scope es)

def evaluateEntries (env : Environment) (scope : Scope) :
    List (String × Expr) → Except CalculateError (List (String × Value))
  | [] => .ok []
  | (key, e) :: rest => do
    let v ← evaluate env scope e
    return (key, v) :: (← evaluateEntries env scope rest)

/-- The chain's value is null if it has no operands. -/
def evaluateChain (env : Environment) (scope : Scope) :
    List Expr → List Operator → Calculation
  | [], _ => .ok .null
  | first :: more, operators => do
    continueChain env scope (← evaluate env scope first) more operators

/-- Applies operators from the left; operands or operators without a partner are unused. -/
def continueChain (env : Environment) (scope : Scope) (left : Value) :
    List Expr → List Operator → Calculation
  | e :: es, op :: ops => do
    let right ← evaluate env scope e
    continueChain env scope (← op.apply env.patterns left right) es ops
  | _, _ => .ok left

/-- Passes a value through one stage, as its first argument. -/
def applyStage (env : Environment) (scope : Scope) (v : Value) : Expr → Calculation
  | .call name args => do call env name (v :: (← evaluateAll env scope args))
  | .var name => call env name [v]
  | other => .error (.unknownFunction other.outline)

def passThrough (env : Environment) (scope : Scope) (v : Value) : List Expr → Calculation
  | [] => .ok v
  | stage :: more => do passThrough env scope (← applyStage env scope v stage) more

/-- Follows steps into a value. -/
def follow (env : Environment) (scope : Scope) (v : Value) : List Expr → Calculation
  | [] => .ok v
  | step :: more => do follow env scope (← followStep env scope v step) more

/-- A step that names no part of the value stands for itself. -/
def followStep (env : Environment) (scope : Scope) (v : Value) : Expr → Calculation
  | .var name => v.property name
  | .call name args => do call env name (v :: (← evaluateAll env scope args))
  | .entry name key => do (← v.property name).entryAt key
  | other => evaluate env scope other

end

end Environment

end TemplateEngine
