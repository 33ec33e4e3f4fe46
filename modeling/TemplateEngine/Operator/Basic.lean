/-
  TemplateEngine.Operator.Basic — the binary operators and their precedence.

  Operators of one level associate to the left in one flat chain. A level lists the
  operators in the order in which they are tried, so that no symbol hides a longer one.
-/

namespace TemplateEngine

inductive Operator where
  | startsWith
  | endsWith
  | matching
  | isIn
  | or
  | and
  | equal
  | different
  | lessOrEqual
  | greaterOrEqual
  | less
  | greater
  | add
  | subtract
  | wholeDivide
  | wholeTimes
  | times
  | divide
  | remainder
  deriving DecidableEq, Repr

namespace Operator

def all : List Operator :=
  [startsWith, endsWith, matching, isIn, or, and, equal, different, lessOrEqual, greaterOrEqual,
    less, greater, add, subtract, wholeDivide, wholeTimes, times, divide, remainder]

def symbol : Operator → String
  | startsWith => "startsWith"
  | endsWith => "endsWith"
  | matching => "matches"
  | isIn => "in"
  | or => "or"
  | and => "and"
  | equal => "=="
  | different => "!="
  | lessOrEqual => "<="
  | greaterOrEqual => ">="
  | less => "<"
  | greater => ">"
  | add => "+"
  | subtract => "-"
  | wholeDivide => "//"
  | wholeTimes => "**"
  | times => "*"
  | divide => "/"
  | remainder => "%"

/-- Whether the operator is written as a word, which has to end where it ends. -/
def isWord : Operator → Bool
  | startsWith | endsWith | matching | isIn | or | and => true
  | _ => false

def ofSymbol? (text : String) : Option Operator := all.find? (·.symbol == text)

/-- The levels of binary operators, from the loosest. -/
inductive Level where
  | test
  | disjunction
  | conjunction
  | equality
  | relation
  | sum
  | product
  deriving DecidableEq, Repr

def Level.operators : Level → List Operator
  | .test => [startsWith, endsWith, matching, isIn]
  | .disjunction => [or]
  | .conjunction => [and]
  | .equality => [equal, different]
  | .relation => [lessOrEqual, greaterOrEqual, less, greater]
  | .sum => [add, subtract]
  | .product => [wholeDivide, wholeTimes, times, divide, remainder]

end Operator

end TemplateEngine
