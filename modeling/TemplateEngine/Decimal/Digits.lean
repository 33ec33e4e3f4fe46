/-
  TemplateEngine.Decimal.Digits — whole numbers in decimal digits.
-/

namespace TemplateEngine.Decimal

/-- The number a run of decimal digits stands for. -/
def digitsValue (digits : List Char) : Nat :=
  digits.foldl (fun n c => n * 10 + (c.toNat - '0'.toNat)) 0

/-- The number of decimal digits of `n`, one for zero. -/
def digitCount (n : Nat) : Nat := (Nat.repr n).length

end TemplateEngine.Decimal
