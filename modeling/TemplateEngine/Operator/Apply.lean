/-
  TemplateEngine.Operator.Apply — what the binary operators compute.

  Arithmetic on two whole numbers is exact: a result that fits no word is an error. With a
  double on either side both are doubles. `+` joins texts, where anything next to a text
  is taken as its text, and lists. `//` and `**` are whole division and multiplication,
  cut off toward zero. Comparison orders two numbers or two texts; a NaN is on no side of
  anything. What regular expressions mean is up to the library that compiles them.
-/

import TemplateEngine.CalculateError
import TemplateEngine.Double.Arithmetic
import TemplateEngine.Text.Extent
import TemplateEngine.Value.Equality
import TemplateEngine.Value.Text

namespace TemplateEngine.Operator

abbrev Outcome := Except CalculateError Value

/-- Compiles a regular expression to the test whether a text has a part that it describes, or
    tells what is wrong with it. -/
abbrev Patterns := String → Except String (String → Bool)

def mismatch (op : Operator) (left right : Value) : CalculateError :=
  .typeMismatch op left.kindName right.kindName

/-- A whole result, if it fits. -/
def whole (op : Operator) (n : Int) : Outcome :=
  match word? n with
  | some w => .ok (.int w)
  | none => .error (.overflow op)

/-- The whole part of a double result, if it fits. -/
def truncated (op : Operator) (x : Double) : Outcome :=
  match x.truncate? with
  | some n => whole op n
  | none => .error (.overflow op)

/-- Both operands as doubles. -/
def doubles (op : Operator) (left right : Value) : Except CalculateError (Double × Double) :=
  match left.toDouble?, right.toDouble? with
  | some a, some b => .ok (a, b)
  | _, _ => .error (mismatch op left right)

def divisor (b : Double) : Except CalculateError Unit :=
  if b.equals .zero then .error .divisionByZero else .ok ()

/-! ## Arithmetic -/

def arithmetic (op : Operator) (exact : Int → Int → Int) (approximate : Double → Double → Double)
    (left right : Value) : Outcome :=
  match left, right with
  | .int a, .int b => whole op (exact a.toInt b.toInt)
  | _, _ => do
    let (a, b) ← doubles op left right
    return .float (approximate a b)

def plus (left right : Value) : Outcome :=
  if left.isText || right.isText then .ok (.string (left.text ++ right.text))
  else
    match left, right with
    | .list a, .list b => .ok (.list (a ++ b))
    | _, _ => arithmetic add (· + ·) Double.add left right

def quotient (left right : Value) : Outcome := do
  let (a, b) ← doubles divide left right
  divisor b
  return .float (a.divide b)

def wholeQuotient (left right : Value) : Outcome :=
  match left, right with
  | .int a, .int b => if b = 0 then .error .divisionByZero else whole wholeDivide (a.toInt.tdiv b.toInt)
  | _, _ => do
    let (a, b) ← doubles wholeDivide left right
    divisor b
    truncated wholeDivide (a.divide b)

def wholeProduct (left right : Value) : Outcome :=
  match left, right with
  | .int a, .int b => whole wholeTimes (a.toInt * b.toInt)
  | _, _ => do
    let (a, b) ← doubles wholeTimes left right
    truncated wholeTimes (a.multiply b)

/-- The smallest word has no remainder by minus one, as it has no such quotient. -/
def rest (left right : Value) : Outcome :=
  match left, right with
  | .int a, .int b =>
    if b = 0 then .error .divisionByZero
    else do
      let _ ← whole remainder (a.toInt.tdiv b.toInt)
      whole remainder (a.toInt.tmod b.toInt)
  | _, _ => do
    let (a, b) ← doubles remainder left right
    divisor b
    return .float (a.remainder b)

/-! ## Comparison -/

def compare (op : Operator) (accept : Ordering → Bool) (left right : Value) : Outcome :=
  match left, right with
  | .int a, .int b => .ok (.bool (accept (Ord.compare a.toInt b.toInt)))
  | _, _ =>
    if left.isText && right.isText then .ok (.bool (accept (Ord.compare left.text right.text)))
    else do
      let (a, b) ← doubles op left right
      return .bool ((a.order? b).any accept)

/-! ## Texts, lists and maps -/

/-- Whether a list has `right` at one edge, or a text has its text there. -/
def atEdge (op : Operator) (edge : List Value → Option Value)
    (affix : List Char → List Char → Bool) (left right : Value) : Outcome :=
  match left with
  | .list items => .ok (.bool ((edge items).any (·.equals right)))
  | _ =>
    if left.isText then .ok (.bool (affix right.text.toList left.text.toList))
    else .error (mismatch op left right)

/-- Whether a list has an item equal to `needle`, a map its text as a key, or a text its
    text anywhere. -/
def member (needle haystack : Value) : Outcome :=
  match haystack with
  | .list items => .ok (.bool (items.any (·.equals needle)))
  | .map entries => .ok (.bool (Table.hasKey entries needle.text))
  | _ =>
    if haystack.isText then .ok (.bool (Text.contains needle.text.toList haystack.text.toList))
    else .error (mismatch isIn needle haystack)

def compiled (patterns : Patterns) (pattern : String) : Except CalculateError (String → Bool) :=
  (patterns pattern).mapError .invalidPattern

/-- The pattern of the texts that a pattern describes as a whole. -/
def anchored (pattern : String) : String := "^(?:" ++ pattern ++ ")$"

/-- Whether a pattern describes a whole text. -/
def matchWhole (patterns : Patterns) (left right : Value) : Outcome :=
  if left.isText && right.isText then do
    -- alone it has to be a pattern too, or it could close the group that holds it
    let _ ← compiled patterns right.text
    let test ← compiled patterns (anchored right.text)
    return .bool (test left.text)
  else .error (mismatch matching left right)

/-! ## All operators -/

def apply (patterns : Patterns) : Operator → Value → Value → Outcome
  | or, a, b => .ok (.bool (a.isTruthy || b.isTruthy))
  | and, a, b => .ok (.bool (a.isTruthy && b.isTruthy))
  | equal, a, b => .ok (.bool (a.equals b))
  | different, a, b => .ok (.bool (!a.equals b))
  | less, a, b => compare less Ordering.isLT a b
  | lessOrEqual, a, b => compare lessOrEqual Ordering.isLE a b
  | greater, a, b => compare greater Ordering.isGT a b
  | greaterOrEqual, a, b => compare greaterOrEqual Ordering.isGE a b
  | add, a, b => plus a b
  | subtract, a, b => arithmetic subtract (· - ·) Double.subtract a b
  | times, a, b => arithmetic times (· * ·) Double.multiply a b
  | divide, a, b => quotient a b
  | wholeDivide, a, b => wholeQuotient a b
  | wholeTimes, a, b => wholeProduct a b
  | remainder, a, b => rest a b
  | startsWith, a, b => atEdge startsWith List.head? List.isPrefixOf a b
  | endsWith, a, b => atEdge endsWith List.getLast? List.isSuffixOf a b
  | matching, a, b => matchWhole patterns a b
  | isIn, a, b => member a b

end TemplateEngine.Operator
