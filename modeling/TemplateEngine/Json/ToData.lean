/-
  TemplateEngine.Json.ToData — JSON documents as data.

  Members of an object come in the order of their names' bytes, the last of a name's values
  counts. A number without a point and an exponent that fits a word is that word, but `-0`
  is none.

  Other numbers are doubles, computed in two roundings: the leading digits as far as they
  fit an unsigned word (digits beyond only move the point, or are dropped behind it), and
  then one multiplication or division by a power of ten. A number out of the range of
  doubles is refused.
-/

import TemplateEngine.Decimal.Digits
import TemplateEngine.Double.Arithmetic
import TemplateEngine.Json.Data
import TemplateEngine.Json.Reader

namespace TemplateEngine

namespace Json

/-- Adds digits to a significand while it fits 64 unsigned bits; tells which are left. -/
def accumulate (significand : Nat) : List Char → Nat × List Char
  | [] => (significand, [])
  | c :: cs =>
    let next := significand * 10 + (c.toNat - '0'.toNat)
    if next < unsignedBound then accumulate next cs else (significand, c :: cs)

/-- Scales by a power of ten in steps that doubles can hold. -/
def scale : Nat → Double → Int → Option Double
  | 0, x, _ => some x
  | n + 1, x, e =>
    if e.natAbs ≤ 308 then
      let power := Double.ofInt (Nat.pow 10 e.natAbs)
      if e ≥ 0 then
        let y := x.multiply power
        if y.isInfinite then none else some y
      else some (x.divide power)
    else if x.equals .zero then some x
    else if e ≥ 0 then none
    else scale n (x.divide (Double.ofInt (Nat.pow 10 308))) (e + 308)

end Json

namespace Numeral

open Json

/-- The significand and the power of ten that a numeral's digits amount to. -/
def parts (n : Numeral) : Nat × Int :=
  let (whole, beyond) := accumulate 0 n.whole
  let places := n.places.getD []
  if beyond.isEmpty then
    let (all, dropped) := accumulate whole places
    (all, -((places.length - dropped.length : Nat) : Int))
  else
    -- the digit that does not fit ends the whole part, but one behind the point may fit again
    let (all, dropped) := accumulate whole places
    (all, (beyond.length : Int) - ((places.length - dropped.length : Nat) : Int))

/-- The exponent as written, cut off where no double can follow. -/
def writtenExponent (n : Numeral) : Int :=
  match n.exponent with
  | none => 0
  | some (negative, ds) =>
    let e : Int := min (Decimal.digitsValue ds) 0x80000000
    if negative then -e else e

def toDouble? (n : Numeral) : Option Double := do
  let (significand, power) := n.parts
  let e := power + n.writtenExponent
  let x ← scale 16 (Double.ofInt significand) (max e (-4000))
  return if n.negative then x.negate else x

/-- The number a numeral stands for. -/
def number? (n : Numeral) : Option Number :=
  let magnitude : Int := Decimal.digitsValue n.whole
  let whole? :=
    if n.places.isSome || n.exponent.isSome || (n.negative && magnitude == 0) then none
    else word? (if n.negative then -magnitude else magnitude)
  match whole? with
  | some w => some (.ofWord w)
  | none => n.toDouble?.map fun x => ⟨none, some x⟩

end Numeral

namespace Json

/-- Entries in the order of their keys, which is that of their bytes. -/
def sortByKey {α : Type} (t : Table α) : Table α := t.mergeSort fun a b => decide (a.1 ≤ b.1)

mutual

/-- The data a document stands for, unless a number is out of range. -/
def toData? : Json → Option Data
  | null => some .null
  | bool b => some (.bool b)
  | number n => n.number?.map .number
  | string s => some (.string s)
  | array items => (itemData? items).map .array
  | object members => (memberData? members).map fun t => .object (sortByKey (Table.ofEntries t))

def itemData? : List Json → Option (List Data)
  | [] => some []
  | j :: rest => do return (← toData? j) :: (← itemData? rest)

def memberData? : List (String × Json) → Option (Table Data)
  | [] => some []
  | (name, j) :: rest => do return (name, ← toData? j) :: (← memberData? rest)

end

/-- Reads the data that a JSON text stands for. -/
def decode : Decoder := fun text => (parse? depthLimit text).bind toData?

end Json

end TemplateEngine
