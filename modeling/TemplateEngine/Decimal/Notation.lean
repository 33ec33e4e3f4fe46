/-
  TemplateEngine.Decimal.Notation — how a number's digits are written down.

  A `NumberStyle` fixes what a reader could choose differently: which magnitudes are written
  out in full and which with an exponent, how an exponent is signed, and how a tie between
  two equally short candidates is broken.
-/

import TemplateEngine.Decimal.Shortest

namespace TemplateEngine.Decimal

structure NumberStyle where
  tie : Tie
  /-- Numbers whose first digit stands for `10^e` with `e` in this range are written in
      full; `none` writes all of them so. -/
  positional : Option (Int × Int)
  /-- What stands in front of an exponent that is not negative. -/
  plus : String := "+"
  deriving Repr

def zeros (n : Nat) : String := String.ofList (List.replicate n '0')

/-- All digits in full, with at least one on each side of the point. -/
def positionalText (s : Scientific) : String :=
  let digits := toString s.digits
  if s.exponent ≥ 0 then digits ++ zeros s.exponent.toNat ++ ".0"
  else
    let places := (-s.exponent).toNat
    if digits.length > places then
      String.ofList (digits.toList.take (digits.length - places)) ++ "."
        ++ String.ofList (digits.toList.drop (digits.length - places))
    else "0." ++ zeros (places - digits.length) ++ digits

/-- One digit, a point and the others when there are any, and a signed exponent. -/
def NumberStyle.exponentText (style : NumberStyle) (s : Scientific) : String :=
  let digits := (toString s.digits).toList
  let e := s.exponent + (digits.length - 1 : Nat)
  let sign := if e ≥ 0 then style.plus else "-"
  let head := String.ofList (digits.take 1)
  let tail := digits.drop 1
  (if tail.isEmpty then head else head ++ "." ++ String.ofList tail)
    ++ "e" ++ sign ++ toString e.natAbs

/-- The text of a positive number. -/
def NumberStyle.text (style : NumberStyle) (s : Scientific) : String :=
  let leading := s.exponent + (digitCount s.digits - 1 : Nat)
  match style.positional with
  | none => positionalText s
  | some (lo, hi) => if lo ≤ leading ∧ leading < hi then positionalText s else style.exponentText s

end TemplateEngine.Decimal
