/-
  TemplateEngine.Proofs.Double.Rounding — whole numbers as doubles.

  A double has room for 53 bits of a whole number, from its leading bit on: its significand.
  A longer number is rounded. Rounding never turns two numbers around, but past `2^53` it
  makes one double of some.

  Proved:
  - `nearestBits_whole`: the bits of a whole number, by its leading bit and its significand.
  - `nearestBits_mono`, `nearestBits_lt`: a larger number has no smaller bits, and up to
    `2^53` it has larger ones.
  - `totalRank_ofInt_mono`, `ofInt_inj`: so rounding keeps the order of whole numbers, and up
    to `2^53` keeps them apart.
-/

import Mathlib.Algebra.Order.Ring.Nat
import TemplateEngine.Double.Basic

namespace TemplateEngine.Double

/-! ## Rounding a fraction -/

theorem roundHalfEven_bounds (num den : Nat) :
    num / den ≤ roundHalfEven num den ∧ roundHalfEven num den ≤ num / den + 1 := by
  grind [roundHalfEven]

theorem roundHalfEven_one (n : Nat) : roundHalfEven n 1 = n := by
  simp [roundHalfEven, Nat.mod_one]

theorem roundHalfEven_mono {num num' : Nat} (den : Nat) (h : num ≤ num') :
    roundHalfEven num den ≤ roundHalfEven num' den := by
  rcases Nat.lt_or_eq_of_le (Nat.div_le_div_right h : num / den ≤ num' / den) with hlt | heq
  · have hupper := (roundHalfEven_bounds num den).2
    have hlower := (roundHalfEven_bounds num' den).1
    omega
  · -- between the same two whole numbers the larger rest is not rounded down alone
    have hrest : num % den ≤ num' % den := by
      have hnum := Nat.div_add_mod num den
      have hnum' := Nat.div_add_mod num' den
      rw [← heq] at hnum'
      omega
    grind [roundHalfEven]

/-! ## The bits of a whole number -/

theorem powTwo_eq (e : Int) : powTwo e = (2 ^ e.toNat, 2 ^ (-e).toNat) := by
  unfold powTwo
  split
  · have hzero : (-e).toNat = 0 := by omega
    rw [hzero]
    rfl
  · have hzero : e.toNat = 0 := by omega
    rw [hzero]
    rfl

theorem floorLog2_whole {n : Nat} (h : n ≠ 0) : floorLog2 n 1 = n.log2 := by
  have hpow := Nat.log2_self_le h
  have hone : Nat.log2 1 = 0 := by decide
  simp [floorLog2, powTwo_eq, hone, hpow]

/-- The leading 53 bits of a positive number, the last of them rounded. -/
def significand (n : Nat) : Nat := roundHalfEven (n * Nat.pow 2 (52 - n.log2)) (Nat.pow 2 (n.log2 - 52))

/-- The bits of a positive whole number, as long as they are not those of infinity. -/
def wholeBits (n : Nat) : Nat := (n.log2 + 1022) * leadingBit + significand n

theorem nearestBits_whole {n : Nat} (h : n ≠ 0) : nearestBits n 1 = min (wholeBits n) infinityBits := by
  have hexponent : max ((n.log2 : Int) - 52) (-1074) = (n.log2 : Int) - 52 := by omega
  have hplace : ((n.log2 : Int) - 52 + 1074).toNat = n.log2 + 1022 := by omega
  have hup : ((n.log2 : Int) - 52).toNat = n.log2 - 52 := by omega
  have hdown : (-((n.log2 : Int) - 52)).toNat = 52 - n.log2 := by omega
  rw [nearestBits, if_neg h, floorLog2_whole h, hexponent]
  simp only [powTwo_eq, hup, hdown, hplace, Nat.one_mul]
  rfl

/-- The leading bit is the first of the 53, unless rounding carries past it. -/
theorem significand_bounds {n : Nat} (h : n ≠ 0) :
    leadingBit ≤ significand n ∧ significand n ≤ 2 * leadingBit := by
  have hlow : 2 ^ n.log2 ≤ n := Nat.log2_self_le h
  have hhigh : n < 2 ^ (n.log2 + 1) := Nat.lt_log2_self
  have hden : 0 < 2 ^ (n.log2 - 52) := Nat.two_pow_pos _
  have hnum : 0 < 2 ^ (52 - n.log2) := Nat.two_pow_pos _
  have hscale : leadingBit * 2 ^ (n.log2 - 52) = 2 ^ n.log2 * 2 ^ (52 - n.log2) := by
    rw [show leadingBit = 2 ^ 52 from rfl, ← Nat.pow_add, ← Nat.pow_add]
    congr 1
    omega
  obtain ⟨hlower, hupper⟩ := roundHalfEven_bounds (n * Nat.pow 2 (52 - n.log2)) (Nat.pow 2 (n.log2 - 52))
  have hq : leadingBit ≤ n * 2 ^ (52 - n.log2) / 2 ^ (n.log2 - 52) := by
    rw [Nat.le_div_iff_mul_le hden, hscale]
    exact Nat.mul_le_mul_right _ hlow
  have hq' : n * 2 ^ (52 - n.log2) / 2 ^ (n.log2 - 52) < 2 * leadingBit := by
    rw [Nat.div_lt_iff_lt_mul hden, Nat.mul_assoc, hscale, ← Nat.mul_assoc, ← Nat.pow_succ']
    exact Nat.mul_lt_mul_of_pos_right hhigh hnum
  exact ⟨Nat.le_trans hq hlower, Nat.le_trans hupper hq'⟩

/-- A number of up to 53 bits is not rounded. -/
theorem significand_short {n : Nat} (h : n.log2 ≤ 52) : significand n = n * Nat.pow 2 (52 - n.log2) := by
  rw [significand, Nat.sub_eq_zero_of_le h]
  exact roundHalfEven_one _

theorem significand_short_lt {n : Nat} (h : n.log2 ≤ 52) : significand n < 2 * leadingBit := by
  have hhigh : n < 2 ^ (n.log2 + 1) := Nat.lt_log2_self
  have hscale : 2 * leadingBit = 2 ^ (n.log2 + 1) * 2 ^ (52 - n.log2) := by
    rw [show 2 * leadingBit = 2 ^ 53 from rfl, ← Nat.pow_add]
    congr 1
    omega
  rw [significand_short h, hscale]
  exact Nat.mul_lt_mul_of_pos_right hhigh (Nat.two_pow_pos _)

/-! ## The order of whole numbers -/

theorem log2_mono {m n : Nat} (hm : m ≠ 0) (h : m ≤ n) : m.log2 ≤ n.log2 :=
  (Nat.le_log2 (by omega)).mpr (Nat.le_trans (Nat.log2_self_le hm) h)

/-- A significand takes the place of one more exponent at most. -/
theorem place_le {m n : Nat} (h : m.log2 < n.log2) :
    (m.log2 + 1022) * leadingBit + 2 * leadingBit ≤ (n.log2 + 1022) * leadingBit + leadingBit := by
  have := Nat.mul_le_mul_right leadingBit (show m.log2 + 1022 + 1 ≤ n.log2 + 1022 by omega)
  rw [Nat.add_one_mul] at this
  omega

theorem wholeBits_mono {m n : Nat} (hm : m ≠ 0) (h : m ≤ n) : wholeBits m ≤ wholeBits n := by
  unfold wholeBits
  rcases Nat.lt_or_eq_of_le (log2_mono hm h) with hlt | heq
  · have hplace := place_le hlt
    have hupper := (significand_bounds hm).2
    have hlower := (significand_bounds (n := n) (by omega)).1
    omega
  · have hround : significand m ≤ significand n := by
      rw [significand, significand, heq]
      exact roundHalfEven_mono _ (Nat.mul_le_mul_right _ h)
    rw [heq]
    omega

/-- `2^53`: whole numbers up to it are doubles. -/
def exactBound : Nat := 0x20000000000000

theorem wholeBits_lt {m n : Nat} (hm : m ≠ 0) (h : m < n) (hn : n ≤ exactBound) : wholeBits m < wholeBits n := by
  have hshort : m.log2 ≤ 52 := by
    have hlt : m < 2 ^ 53 := Nat.lt_of_lt_of_le h hn
    have := (Nat.log2_lt hm).mpr hlt
    omega
  unfold wholeBits
  rcases Nat.lt_or_eq_of_le (log2_mono hm (Nat.le_of_lt h)) with hlt | heq
  · have hplace := place_le hlt
    have hupper := significand_short_lt hshort
    have hlower := (significand_bounds (n := n) (by omega)).1
    omega
  · have hround : significand m < significand n := by
      rw [significand_short hshort, significand_short (heq ▸ hshort), heq]
      exact Nat.mul_lt_mul_of_pos_right h (Nat.two_pow_pos _)
    rw [heq]
    omega

theorem nearestBits_mono {m n : Nat} (h : m ≤ n) : nearestBits m 1 ≤ nearestBits n 1 := by
  by_cases hm : m = 0
  · subst hm
    exact Nat.zero_le _
  · have := wholeBits_mono hm h
    rw [nearestBits_whole hm, nearestBits_whole (by omega)]
    omega

theorem nearestBits_le (n : Nat) : nearestBits n 1 ≤ infinityBits := by
  by_cases hn : n = 0
  · subst hn
    exact Nat.zero_le _
  · rw [nearestBits_whole hn]
    omega

theorem wholeBits_lt_infinity {n : Nat} (hn : n ≠ 0) (h : n ≤ exactBound) : wholeBits n < infinityBits := by
  have hlog : n.log2 < 54 := (Nat.log2_lt hn).mpr (Nat.lt_of_le_of_lt h (by decide))
  have hupper := (significand_bounds hn).2
  have hplace := Nat.mul_le_mul_right leadingBit (show n.log2 + 1022 ≤ 1075 by omega)
  have hbound : 1075 * leadingBit + 2 * leadingBit < infinityBits := by decide
  unfold wholeBits
  omega

theorem nearestBits_lt {m n : Nat} (h : m < n) (hn : n ≤ exactBound) : nearestBits m 1 < nearestBits n 1 := by
  have hfinite := wholeBits_lt_infinity (n := n) (by omega) hn
  rw [nearestBits_whole (n := n) (by omega)]
  by_cases hm : m = 0
  · have hlower := (significand_bounds (n := n) (by omega)).1
    have hpos : 0 < leadingBit := by decide
    have hzero : nearestBits 0 1 = 0 := rfl
    subst hm
    unfold wholeBits at *
    omega
  · have := wholeBits_lt hm h hn
    rw [nearestBits_whole hm]
    omega

/-! ## Signs -/

theorem toNat_ofMagnitude (negative : Bool) {bits : Nat} (h : bits < signBit) :
    (ofMagnitude negative bits).bits.toNat = if negative then bits + signBit else bits := by
  have hsign : signBit + signBit = 2 ^ 64 := by decide
  rw [ofMagnitude, UInt64.toNat_ofNat', Nat.mod_eq_of_lt]
  split <;> omega

theorem totalRank_eq (x : Double) :
    x.totalRank = if signBit ≤ x.bits.toNat then (signBit : Int) - x.bits.toNat - 1 else x.bits.toNat := by
  have hbits := x.bits.toNat_lt
  by_cases h : signBit ≤ x.bits.toNat
  · have hmagnitude : x.bits.toNat % signBit = x.bits.toNat - signBit := by
      rw [Nat.mod_eq_sub_mod h, Nat.mod_eq_of_lt]
      unfold signBit
      omega
    rw [totalRank, isNegative, magnitude, decide_eq_true h, if_pos rfl, if_pos h, hmagnitude]
    omega
  · rw [totalRank, isNegative, magnitude, decide_eq_false h, if_neg Bool.false_ne_true, if_neg h,
      Nat.mod_eq_of_lt (Nat.lt_of_not_le h)]

theorem totalRank_ofMagnitude (negative : Bool) {bits : Nat} (h : bits < signBit) :
    (ofMagnitude negative bits).totalRank = if negative then -(bits : Int) - 1 else bits := by
  rw [totalRank_eq, toNat_ofMagnitude negative h]
  cases negative with
  | true => simp
  | false => simp [Nat.not_le.mpr h]

/-- Two doubles at one place are one double. -/
theorem totalRank_inj {x y : Double} (h : x.totalRank = y.totalRank) : x = y := by
  rw [totalRank_eq, totalRank_eq] at h
  have hbits : x.bits.toNat = y.bits.toNat := by
    split at h <;> split at h <;> omega
  cases x
  cases y
  exact congrArg Double.mk (UInt64.toNat_inj.mp hbits)

theorem totalRank_ofInt (n : Int) :
    (ofInt n).totalRank = if n < 0 then -(nearestBits n.natAbs 1 : Int) - 1 else nearestBits n.natAbs 1 := by
  have hbound : nearestBits n.natAbs 1 < signBit := Nat.lt_of_le_of_lt (nearestBits_le _) (by decide)
  rw [ofInt, ofRatio, totalRank_ofMagnitude _ hbound]
  simp

theorem totalRank_ofInt_mono {m n : Int} (h : m ≤ n) : (ofInt m).totalRank ≤ (ofInt n).totalRank := by
  rw [totalRank_ofInt, totalRank_ofInt]
  by_cases hm : m < 0
  · by_cases hn : n < 0
    · -- the negative number that is further from zero is the smaller one
      have := nearestBits_mono (show n.natAbs ≤ m.natAbs by omega)
      rw [if_pos hm, if_pos hn]
      omega
    · rw [if_pos hm, if_neg hn]
      omega
  · have := nearestBits_mono (show m.natAbs ≤ n.natAbs by omega)
    rw [if_neg hm, if_neg (by omega)]
    omega

theorem totalRank_ofInt_lt {m n : Int} (h : m < n) (hm : m.natAbs ≤ exactBound) (hn : n.natAbs ≤ exactBound) :
    (ofInt m).totalRank < (ofInt n).totalRank := by
  rw [totalRank_ofInt, totalRank_ofInt]
  by_cases hm' : m < 0
  · by_cases hn' : n < 0
    · have := nearestBits_lt (show n.natAbs < m.natAbs by omega) hm
      rw [if_pos hm', if_pos hn']
      omega
    · rw [if_pos hm', if_neg hn']
      omega
  · have := nearestBits_lt (show m.natAbs < n.natAbs by omega) hn
    rw [if_neg hm', if_neg (by omega)]
    omega

theorem ofInt_inj {m n : Int} (hm : m.natAbs ≤ exactBound) (hn : n.natAbs ≤ exactBound)
    (h : ofInt m = ofInt n) : m = n := by
  rcases Int.lt_trichotomy m n with hlt | heq | hgt
  · have := totalRank_ofInt_lt hlt hm hn
    rw [h] at this
    omega
  · exact heq
  · have := totalRank_ofInt_lt hgt hn hm
    rw [h] at this
    omega

end TemplateEngine.Double
