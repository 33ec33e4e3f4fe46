/-
  TemplateEngine.Decimal.Shortest — the fewest decimal digits that still name a double.

  The numbers that round to `m · 2^q` form an interval around it: half a step to each
  side, half of that below a power of two, the ends included when `m` is even. For one
  digit, two digits and so on, the decimal grid with that many digits has one point just
  below the number and one just above it; the first grid with a point in the interval
  gives the digits. Of two such points the nearer is taken, and a `Tie` says what happens
  when neither is.
-/

import TemplateEngine.Decimal.Digits
import TemplateEngine.Double.Basic

namespace TemplateEngine.Decimal

inductive Tie where
  | away
  | toEven
  deriving DecidableEq, Repr

/-- `digits · 10^exponent`. -/
structure Scientific where
  digits : Nat
  exponent : Int
  deriving DecidableEq, Repr

/-- `10^e` as a fraction. -/
def powTen (e : Int) : Nat × Nat :=
  if e ≥ 0 then (Nat.pow 10 e.toNat, 1) else (1, Nat.pow 10 (-e).toNat)

/-- The interval of numbers that round to `m · 2^q`, over one denominator: the lower end,
    the number itself, the upper end, the denominator. -/
structure Rounding where
  low : Nat
  value : Nat
  high : Nat
  den : Nat
  /-- Whether the ends belong to it. -/
  closed : Bool
  deriving Repr

def rounding (m : Nat) (q : Int) : Rounding :=
  let (p, d) := Double.powTwo q
  -- the step below a power of two is half as wide, except at the bottom
  let narrow := m = Double.leadingBit ∧ q > -1074
  { low := (if narrow then 4 * m - 1 else 4 * m - 2) * p
    value := 4 * m * p
    high := (4 * m + 2) * p
    den := 4 * d
    closed := m % 2 = 0 }

/-- Whether `n · 10^e` lies in the interval. -/
def Rounding.holds (r : Rounding) (n : Nat) (e : Int) : Bool :=
  let (p, d) := powTen e
  let x := n * p * r.den
  if r.closed then r.low * d ≤ x ∧ x ≤ r.high * d else r.low * d < x ∧ x < r.high * d

/-- The grid of multiples of `10^e` gives its points next to the value, if they round back. -/
def Rounding.onGrid? (r : Rounding) (tie : Tie) (e : Int) : Option Scientific :=
  let (p, d) := powTen e
  let below := r.value * d / (r.den * p)
  let rest := 2 * (r.value * d % (r.den * p))
  match r.holds below e && below > 0, r.holds (below + 1) e with
  | true, true =>
    let up := rest > r.den * p || (rest == r.den * p && (tie == .away || below % 2 == 1))
    some ⟨if up then below + 1 else below, e⟩
  | true, false => some ⟨below, e⟩
  | false, true => some ⟨below + 1, e⟩
  | false, false => none

/-- The first grid with a hit, from the one-digit grid on. -/
def Rounding.firstGrid (r : Rounding) (tie : Tie) (e : Int) : Nat → Scientific
  | 0 => ⟨r.value / r.den, 0⟩
  | n + 1 => (r.onGrid? tie e).getD (r.firstGrid tie (e - 1) n)

/-- The largest `e` with `10^e ≤ num / den`, both positive. -/
def floorLog10 (num den : Nat) : Int :=
  let guess : Int := (digitCount num : Int) - digitCount den
  let (p, q) := powTen guess
  if num * q ≥ den * p then guess else guess - 1

/-- Digits without trailing zeros. -/
def Scientific.trim (s : Scientific) : Nat → Scientific
  | 0 => s
  | n + 1 =>
    if s.digits % 10 = 0 && s.digits > 0 then Scientific.trim ⟨s.digits / 10, s.exponent + 1⟩ n
    else s

/-- The shortest decimal that reads back as `m · 2^q`, for positive `m`. Seventeen digits
    always suffice. -/
def shortest (tie : Tie) (m : Nat) (q : Int) : Scientific :=
  let r := rounding m q
  (r.firstGrid tie (floorLog10 r.value r.den) 18).trim 18

end TemplateEngine.Decimal
