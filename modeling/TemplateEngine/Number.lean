/-
  TemplateEngine.Number — whole numbers that fit a 64-bit word.

  Results are computed exactly and then kept only if they fit, so a word never wraps.
-/

namespace TemplateEngine

/-- `2^63`: words lie below it, and from its opposite on. -/
def wordBound : Int := 0x8000000000000000

/-- `2^64`: words without a sign lie below it. -/
def unsignedBound : Nat := 0x10000000000000000

/-- The word that stands for `n`, if there is one. -/
def word? (n : Int) : Option Int64 :=
  if -wordBound ≤ n ∧ n < wordBound then some (Int64.ofInt n) else none

end TemplateEngine
