/-
  TemplateEngine.Value.Equality — when two values are the same, and when they are equal.

  `same` compares kind by kind: a whole number and a double are never the same, nor a
  character and a string; the order of a map's entries does not matter. `equals` is what
  the equality operator asks, here and inside lists: numbers compare by value, and a
  character equals the string that holds just it. Everywhere else it is `same`.
-/

import TemplateEngine.Value.Basic

namespace TemplateEngine.Value

mutual

def same : Value → Value → Bool
  | null, null => true
  | bool a, bool b => a == b
  | int a, int b => a == b
  | float a, float b => a.equals b
  | char a, char b => a == b
  | string a, string b => a == b
  | list a, list b => sameItems a b
  | map a, map b => a.length == b.length && sameEntries a b
  | _, _ => false

def sameItems : List Value → List Value → Bool
  | [], [] => true
  | a :: as, b :: bs => same a b && sameItems as bs
  | _, _ => false

/-- Whether every entry is in the other table too. -/
def sameEntries : List (String × Value) → List (String × Value) → Bool
  | [], _ => true
  | (key, v) :: rest, other =>
    (match Table.get? key other with
      | some w => same v w
      | none => false) && sameEntries rest other

end

/-- Whether a string holds just one given character. -/
def isJust (c : Char) (s : String) : Bool := s.toList == [c]

theorem isJust_eq (c : Char) (s : String) : isJust c s = (s == c.toString) := by
  rw [isJust, Bool.eq_iff_iff, beq_iff_eq, beq_iff_eq, ← String.toList_inj]
  simp

mutual

def equals : Value → Value → Bool
  | int a, right =>
    match right with
    | int b => a == b
    | float b => (Double.ofInt a.toInt).equals b
    | _ => false
  | float a, right => right.toDouble?.any a.equals
  | char c, right =>
    match right with
    | string s => isJust c s
    | other => same (char c) other
  | string s, right =>
    match right with
    | char c => isJust c s
    | other => same (string s) other
  | list a, right =>
    match right with
    | list b => equalItems a b
    | _ => false
  | left, right => same left right

def equalItems : List Value → List Value → Bool
  | [], [] => true
  | a :: as, b :: bs => equals a b && equalItems as bs
  | _, _ => false

end

end TemplateEngine.Value
