/-
  TemplateEngine.Double.Basic — 64-bit floating-point numbers as exact numbers.

  A double is its bits: a sign, eleven bits of exponent and 52 of fraction. `datum` reads off
  them what they stand for; a finite double is `m · 2^q` with `m < 2^53` and `q ≥ -1074`.
  `ofRatio` goes the other way: the double closest to a fraction, a tie going to the even
  neighbour, infinity from half a step past the largest finite double on.

  A NaN keeps its sign and fraction, and only `totalRank` tells one from another.
-/

namespace TemplateEngine

structure Double where
  bits : UInt64
  deriving DecidableEq, Repr

namespace Double

inductive Datum where
  | nan
  | infinite (negative : Bool)
  /-- The number `mantissa · 2^exponent`, or its opposite. -/
  | finite (negative : Bool) (mantissa : Nat) (exponent : Int)
  deriving DecidableEq, Repr

/-- `2^63`: the bit that holds the sign. -/
def signBit : Nat := 0x8000000000000000

/-- `2^52`: the bit that a normal double has above those of its fraction. -/
def leadingBit : Nat := 0x10000000000000

def isNegative (x : Double) : Bool := x.bits.toNat ≥ signBit

/-- The bits without the sign: in the order of magnitude. -/
def magnitude (x : Double) : Nat := x.bits.toNat % signBit

def ofMagnitude (negative : Bool) (bits : Nat) : Double :=
  ⟨UInt64.ofNat (if negative then bits + signBit else bits)⟩

def zero : Double := ofMagnitude false 0

/-- The bits of the magnitude of infinity; a NaN has more. -/
def infinityBits : Nat := 2047 * leadingBit

def infinity (negative : Bool) : Double := ofMagnitude negative infinityBits

/-- The NaN that an operation gives when its operands have no result. -/
def invalid : Double := ⟨0xfff8000000000000⟩

/-- The NaN that stands for a missing number. -/
def nan : Double := ⟨0x7ff8000000000000⟩

def isNaN (x : Double) : Bool := x.magnitude > infinityBits

def isInfinite (x : Double) : Bool := x.magnitude == infinityBits

def datum (x : Double) : Datum :=
  let biased : Nat := x.magnitude / leadingBit
  let fraction := x.magnitude % leadingBit
  if biased = 2047 then
    if fraction = 0 then .infinite x.isNegative else .nan
  else if biased = 0 then .finite x.isNegative fraction (-1074)
  else .finite x.isNegative (fraction + leadingBit) ((biased : Int) - 1075)

/-! ## Rounding -/

/-- `2^e` as a fraction. -/
def powTwo (e : Int) : Nat × Nat :=
  if e ≥ 0 then (Nat.pow 2 e.toNat, 1) else (1, Nat.pow 2 (-e).toNat)

/-- The whole number closest to `num / den`, the even one of two. -/
def roundHalfEven (num den : Nat) : Nat :=
  let q := num / den
  let twice := 2 * (num % den)
  if twice < den then q
  else if twice > den then q + 1
  else if q % 2 = 0 then q else q + 1

/-- The largest `e` with `2^e ≤ num / den`, both positive. -/
def floorLog2 (num den : Nat) : Int :=
  let e : Int := (Nat.log2 num : Int) - Nat.log2 den
  let (p, q) := powTwo e
  if num * q ≥ den * p then e else e - 1

/-- The bits of the non-negative double closest to `num / den`, `den` positive. -/
def nearestBits (num den : Nat) : Nat :=
  if num = 0 then 0
  else
    let exponent := max (floorLog2 num den - 52) (-1074)
    let (p, q) := powTwo exponent
    let mantissa := roundHalfEven (num * q) (den * p)
    -- a mantissa that reaches `2^53` moves into the next exponent by itself
    min ((exponent + 1074).toNat * leadingBit + mantissa) infinityBits

/-- The double closest to `num / den`, negated on demand. -/
def ofRatio (negative : Bool) (num den : Nat) : Double := ofMagnitude negative (nearestBits num den)

/-- The double closest to a whole number. -/
def ofInt (n : Int) : Double := ofRatio (n < 0) n.natAbs 1

/-- The whole part of a finite double, toward zero. -/
def truncate? (x : Double) : Option Int :=
  match x.datum with
  | .finite negative m e =>
    let (p, q) := powTwo e
    let whole : Int := (m * p / q : Nat)
    some (if negative then -whole else whole)
  | _ => none

/-! ## Order -/

/-- Where a double that is no NaN lies among the others; both zeros lie at one place. -/
def rank (x : Double) : Int := if x.isNegative then -(x.magnitude : Int) else x.magnitude

/-- Which of two doubles comes first, unless one is no number. -/
def order? (a b : Double) : Option Ordering :=
  if a.isNaN || b.isNaN then none else some (Ord.compare a.rank b.rank)

/-- Whether two doubles are the same number. -/
def equals (a b : Double) : Bool := order? a b == some .eq

/-- A place for every double, one for each: a negative zero comes before a positive one, and
    a NaN after all numbers or, if its sign is negative, before them. -/
def totalRank (x : Double) : Int :=
  if x.isNegative then -(x.magnitude : Int) - 1 else x.magnitude

end Double

end TemplateEngine
