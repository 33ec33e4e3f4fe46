/-
  TemplateEngine.Value.Basic — the values that expressions compute and templates show.

  A map keeps its entries in the order in which they came in. A character is a value of
  its own, made by character ranges, and counts as text just like a string.
-/

import TemplateEngine.Double.Basic
import TemplateEngine.Number
import TemplateEngine.Table

namespace TemplateEngine

inductive Value where
  | null
  | bool (b : Bool)
  | int (n : Int64)
  | float (x : Double)
  | char (c : Char)
  | string (s : String)
  | list (items : List Value)
  | map (entries : List (String × Value))

namespace Value

instance : Inhabited Value := ⟨null⟩

/-- The name of the value's kind, for error messages. -/
def kindName : Value → String
  | null => "null"
  | bool _ => "boolean"
  | int _ => "integer"
  | float _ => "float"
  | char _ => "character"
  | string _ => "string"
  | list _ => "list"
  | map _ => "map"

/-- Whether the value counts as true: null, false, zero and empty containers and strings
    do not. -/
def isTruthy : Value → Bool
  | null => false
  | bool b => b
  | int n => n != 0
  | float x => !x.equals .zero
  | char _ => true
  | string s => !s.isEmpty
  | list items => !items.isEmpty
  | map entries => !entries.isEmpty

/-- The value as a double, if it is a number. -/
def toDouble? : Value → Option Double
  | int n => some (Double.ofInt n.toInt)
  | float x => some x
  | _ => none

def isNumber : Value → Bool
  | int _ | float _ => true
  | _ => false

def isText : Value → Bool
  | string _ | char _ => true
  | _ => false

/-- A count: a whole number while it fits, the closest double beyond. -/
def ofNat (n : Nat) : Value :=
  match word? n with
  | some w => int w
  | none => float (Double.ofInt n)

end Value

end TemplateEngine
