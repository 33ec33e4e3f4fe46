/-
  TemplateEngine.Double.Arithmetic — the arithmetic of doubles.

  The result for finite operands is computed exactly and rounded once. A NaN among the
  operands is the result, the left one of two; an operation on infinities or zeros that has
  no result gives `invalid`.
-/

import TemplateEngine.Double.Basic

namespace TemplateEngine.Double

/-- Bit 51 of the fraction tells a quiet NaN, the only kind that operations give. -/
def quiet (x : Double) : Double := ⟨x.bits ||| 0x8000000000000⟩

/-- The NaN that comes of two operands, one of which is one. -/
def nanOf (a b : Double) : Double := quiet (if a.isNaN then a else b)

def negate (x : Double) : Double := ofMagnitude (!x.isNegative) x.magnitude

/-- A magnitude with its sign. -/
def signed (negative : Bool) (n : Nat) : Int := if negative then -(n : Int) else n

/-- A mantissa moved to a smaller exponent. -/
def widened (mantissa : Nat) (exponent low : Int) : Nat :=
  mantissa * Nat.pow 2 (exponent - low).toNat

/-- The double closest to `num · 2^exponent / den`. -/
def scaled (negative : Bool) (num den : Nat) (exponent : Int) : Double :=
  let (p, q) := powTwo exponent
  ofRatio negative (num * p) (den * q)

/-- A sum of zero is negative only if both operands are. -/
def add (a b : Double) : Double :=
  match a.datum, b.datum with
  | .nan, _ | _, .nan => nanOf a b
  | .infinite s, .infinite t => if s = t then a else invalid
  | .infinite _, _ => a
  | _, .infinite _ => b
  | .finite s m e, .finite t n f =>
    let low := min e f
    let sum := signed s (widened m e low) + signed t (widened n f low)
    scaled (if sum = 0 then s && t else sum < 0) sum.natAbs 1 low

def subtract (a b : Double) : Double := if b.isNaN then nanOf a b else add a b.negate

def multiply (a b : Double) : Double :=
  match a.datum, b.datum with
  | .nan, _ | _, .nan => nanOf a b
  | .infinite s, .infinite t => infinity (s != t)
  | .infinite s, .finite t n _ | .finite s n _, .infinite t =>
    if n = 0 then invalid else infinity (s != t)
  | .finite s m e, .finite t n f => scaled (s != t) (m * n) 1 (e + f)

def divide (a b : Double) : Double :=
  match a.datum, b.datum with
  | .nan, _ | _, .nan => nanOf a b
  | .infinite _, .infinite _ => invalid
  | .infinite s, .finite t _ _ => infinity (s != t)
  | .finite s _ _, .infinite t => ofMagnitude (s != t) 0
  | .finite s m e, .finite t n f =>
    if n = 0 then if m = 0 then invalid else infinity (s != t)
    else scaled (s != t) m n (e - f)

/-- The remainder of a division that truncates its quotient: exact, with the sign of the
    dividend. -/
def remainder (a b : Double) : Double :=
  match a.datum, b.datum with
  | .nan, _ | _, .nan => nanOf a b
  | .infinite _, _ => invalid
  | .finite .., .infinite _ => a
  | .finite s m e, .finite _ n f =>
    if n = 0 then invalid
    else
      let low := min e f
      scaled s (widened m e low % widened n f low) 1 low

end TemplateEngine.Double
