/-
  TemplateEngine.Expr.Equality — when two expressions are written the same.

  Doubles compare by value, so a positive and a negative zero are the same.
-/

import TemplateEngine.Expr.Basic

namespace TemplateEngine

def Literal.same : Literal → Literal → Bool
  | null, null => true
  | bool a, bool b => a == b
  | int a, int b => a == b
  | float a, float b => a.equals b
  | char a, char b => a == b
  | string a, string b => a == b
  | _, _ => false

namespace Expr

mutual

def same : Expr → Expr → Bool
  | literal a, literal b => a.same b
  | list a, list b => sameAll a b
  | intRange a b, intRange c d => a == c && b == d
  | charRange a b, charRange c d => a == c && b == d
  | map a, map b => sameEntries a b
  | var a, var b => a == b
  | call f a, call g b => f == g && sameAll a b
  | select a as, select b bs => same a b && sameAll as bs
  | entry a k, entry b l => a == b && k == l
  | pipe a as, pipe b bs => same a b && sameAll as bs
  | chain as ops, chain bs ops' => sameAll as bs && ops == ops'
  | not a, not b => same a b
  | ternary a b c, ternary a' b' c' => same a a' && same b b' && same c c'
  | _, _ => false

def sameAll : List Expr → List Expr → Bool
  | [], [] => true
  | a :: as, b :: bs => same a b && sameAll as bs
  | _, _ => false

def sameEntries : List (String × Expr) → List (String × Expr) → Bool
  | [], [] => true
  | (k, a) :: as, (l, b) :: bs => k == l && same a b && sameEntries as bs
  | _, _ => false

end

end Expr

end TemplateEngine
