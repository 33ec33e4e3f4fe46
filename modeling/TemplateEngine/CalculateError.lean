/-
  TemplateEngine.CalculateError — why an expression has no value.
-/

import TemplateEngine.Operator.Basic

namespace TemplateEngine

/-- Why a function gives no result. -/
inductive FunctionError where
  | arity (expected : String) (found : Nat)
  | invalidArgument (index : Nat) (message : String)
  | failed (message : String)
  deriving DecidableEq, Repr

def FunctionError.message : FunctionError → String
  | arity expected found => "expected " ++ expected ++ " argument(s), got " ++ toString found
  | invalidArgument index message => "invalid argument " ++ toString index ++ ": " ++ message
  | failed message => message

inductive CalculateError where
  | unresolvedVariable (name : String)
  | unknownFunction (name : String)
  | function (name : String) (cause : FunctionError)
  | unknownProperty (property : String) (found : String)
  | typeMismatch (operator : Operator) (left right : String)
  | divisionByZero
  | overflow (operator : Operator)
  | rangeTooLarge (first last : String) (max : Nat)
  | invalidPattern (cause : String)
  deriving DecidableEq, Repr

def CalculateError.message : CalculateError → String
  | unresolvedVariable name => "Unresolved variable: " ++ name
  | unknownFunction name => "Unknown function: " ++ name
  | function name cause => "Function '" ++ name ++ "' failed: " ++ cause.message
  | unknownProperty property found => "No property '" ++ property ++ "' on " ++ found
  | typeMismatch op left right =>
    "Operator '" ++ op.symbol ++ "' cannot be applied to " ++ left ++ " and " ++ right
  | divisionByZero => "Division by zero"
  | overflow op => "Integer overflow in '" ++ op.symbol ++ "'"
  | rangeTooLarge first last max =>
    "Range " ++ first ++ ".." ++ last ++ " has more than " ++ toString max ++ " elements"
  | invalidPattern cause => "Invalid regular expression: " ++ cause

end TemplateEngine
