/-
  TemplateEngine.Function.Builtin — the functions every engine starts with.

  A function first checks how many arguments it got. Functions on text take the text of
  whatever value they are given.
-/

import TemplateEngine.Function.Registry
import TemplateEngine.Json.Data
import TemplateEngine.Text.Blank
import TemplateEngine.Text.Case
import TemplateEngine.Value.Text

namespace TemplateEngine

namespace Function

/-- Exactly one argument. -/
def unary (f : Value → Except FunctionError Value) : Function
  | [v] => f v
  | args => .error (.arity "1" args.length)

/-- The text an argument holds. -/
def textArgument (index : Nat) : Value → Except FunctionError String
  | .string s => .ok s
  | .char c => .ok c.toString
  | v => .error (.invalidArgument index ("expected a string, got " ++ v.kindName))

/-! ## Text -/

/-- Puts the texts of values in place of `%s`, and `%` in place of `%%`. -/
def fill : List Char → List Value → Except FunctionError (List Char)
  | [], _ => .ok []
  | ['%'], _ => .ok ['%']
  | '%' :: 's' :: cs, v :: vs => do return v.text.toList ++ (← fill cs vs)
  | '%' :: 's' :: _, [] => .error (.failed "not enough arguments for format string")
  | '%' :: '%' :: cs, vs => do return '%' :: (← fill cs vs)
  | '%' :: c :: _, _ => .error (.failed ("unsupported format specifier '%" ++ c.toString ++ "'"))
  | c :: cs, vs => do return c :: (← fill cs vs)

def format : Function
  | [] => .error (.arity ("1 to " ++ toString (unsignedBound - 1)) 0)
  | pattern :: values => do
    let pattern ← textArgument 0 pattern
    return .string (String.ofList (← fill pattern.toList values))

def jsonEncode (encode : Json.Encoder) : Function := unary fun
  | .null => .error (.invalidArgument 0 "value must not be null")
  | v => ((encode v).mapError .failed).map .string

/-- A function of one argument's text. -/
def onText (f : List Char → List Char) : Function :=
  unary fun v => .ok (.string (String.ofList (f v.text.toList)))

def upper : Function := onText Text.upper

def lower : Function := onText Text.lower

def capitalize : Function := onText fun
  | [] => []
  | c :: cs => Text.upperChar c ++ cs

def trim : Function := onText Text.trim

/-! ## Collections -/

/-- How many characters, items or entries a value has; one for any other, none for null. -/
def length : Function := unary fun
  | .null => .ok (.ofNat 0)
  | .string s => .ok (.ofNat s.toList.length)
  | .list items => .ok (.ofNat items.length)
  | .map entries => .ok (.ofNat entries.length)
  | _ => .ok (.ofNat 1)

/-- The texts of a list's items with a separator between them. -/
def joined (separator : String) : Value → Value
  | .list items => .string (separator.intercalate (items.map Value.text))
  | v => .string v.text

def join : Function
  | [v] => .ok (joined "" v)
  | [v, separator] => do return joined (← textArgument 1 separator) v
  | args => .error (.arity "1 to 2" args.length)

def reverse : Function := unary fun
  | .list items => .ok (.list items.reverse)
  | .string s => .ok (.string (String.ofList s.toList.reverse))
  | .map entries => .ok (.map entries.reverse)
  | v => .ok v

/-- Numbers are ordered as doubles. -/
def numberRank (v : Value) : Int := (v.toDouble?.getD .zero).totalRank

/-- Stable. Numbers alone are sorted as numbers, all other lists by the items' texts. -/
def sortItems (items : List Value) : List Value :=
  if items.all Value.isNumber then
    items.mergeSort fun a b => decide (numberRank a ≤ numberRank b)
  else items.mergeSort fun a b => decide (a.text ≤ b.text)

def sort : Function := unary fun
  | .list items => .ok (.list (sortItems items))
  | v => .error (.invalidArgument 0 ("expected a list, got " ++ v.kindName))

def first : Function := unary fun
  | .list items => .ok (items.head?.getD .null)
  | .string s => .ok (s.toList.head?.elim .null .char)
  | .map entries => .ok ((entries.map (·.2)).head?.getD .null)
  | v => .ok v

def last : Function := unary fun
  | .list items => .ok (items.getLast?.getD .null)
  | .string s => .ok (s.toList.getLast?.elim .null .char)
  | .map entries => .ok ((entries.map (·.2)).getLast?.getD .null)
  | v => .ok v

def keys : Function := unary fun
  | .map entries => .ok (.list ((Table.keys entries).map .string))
  | .list items => .ok (.list ((List.range items.length).map .ofNat))
  | v => .error (.invalidArgument 0 ("expected a map or list, got " ++ v.kindName))

/-! ## Choice -/

def isBlankValue : Value → Bool
  | .null => true
  | .string s => s.isEmpty
  | .list items => items.isEmpty
  | .map entries => entries.isEmpty
  | _ => false

def default : Function
  | [v, fallback] => .ok (if isBlankValue v then fallback else v)
  | args => .error (.arity "2" args.length)

end Function

namespace Registry

def builtin (encode : Json.Encoder) : Registry :=
  [("format", Function.format), ("json_encode", Function.jsonEncode encode), ("upper", Function.upper),
    ("lower", Function.lower), ("capitalize", Function.capitalize), ("trim", Function.trim),
    ("length", Function.length), ("join", Function.join), ("reverse", Function.reverse),
    ("sort", Function.sort), ("first", Function.first), ("last", Function.last),
    ("keys", Function.keys), ("default", Function.default)]

end Registry

end TemplateEngine
