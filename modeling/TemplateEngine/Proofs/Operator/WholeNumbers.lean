/-
  TemplateEngine.Proofs.Operator.WholeNumbers — arithmetic on two whole numbers.

  `Exact` says what six operators compute on whole numbers of any size. `Divided` is the
  division of two of them: the quotient is cut off toward zero, and so the rest has the
  sign of the dividend. A result is kept if it fits a word, and an overflow otherwise.

  One result that fits is refused: the smallest word has no quotient by minus one, and the
  remainder, zero, is an overflow with it.

  Proved:
  - `divided_iff`: a division has one quotient and one rest.
  - `fitsWord_quotient`: of all quotients of words only that one fits no word.
  - `apply_of_exact`: but for the refused remainder, an operator keeps its exact result.
  - `whole_numbers_exact`: when an operator on two words gives a word, when it overflows, and
    when it divides by zero.
-/

import Mathlib.Logic.ExistsUnique
import TemplateEngine.Operator.Apply
import TemplateEngine.Pattern.Parser
import TemplateEngine.Proofs.Number

namespace TemplateEngine

/-- Dividing leaves a rest that is smaller than the divisor and has the dividend's sign. -/
structure Divided (dividend divisor quotient rest : Int) : Prop where
  total : dividend = quotient * divisor + rest
  smaller : rest.natAbs < divisor.natAbs
  nonneg : 0 ≤ dividend → 0 ≤ rest
  nonpos : dividend ≤ 0 → rest ≤ 0

theorem divided_iff {a b q r : Int} (hb : b ≠ 0) : Divided a b q r ↔ q = a.tdiv b ∧ r = a.tmod b := by
  have hsum : b * q = q * b := Int.mul_comm b q
  constructor
  · intro h
    have hsmaller := h.smaller
    rcases Int.le_total 0 a with ha | ha
    · have hr := h.nonneg ha
      have hunique := (Int.tdiv_tmod_unique ha hb).mpr ⟨by rw [hsum, h.total]; omega, hr, by omega⟩
      exact ⟨hunique.1.symm, hunique.2.symm⟩
    · have hr := h.nonpos ha
      have hunique := (Int.tdiv_tmod_unique' ha hb).mpr ⟨by rw [hsum, h.total]; omega, by omega, hr⟩
      exact ⟨hunique.1.symm, hunique.2.symm⟩
  · rintro ⟨rfl, rfl⟩
    refine ⟨(Int.tdiv_mul_add_tmod a b).symm, ?_, Int.tmod_nonneg b, fun ha => ?_⟩
    · rw [Int.natAbs_tmod]
      exact Nat.mod_lt _ (by omega)
    · have hneg : 0 ≤ (-a).tmod b := Int.tmod_nonneg b (by omega)
      rw [Int.neg_tmod] at hneg
      omega

theorem Divided.divisor_ne_zero {a b q r : Int} (h : Divided a b q r) : b ≠ 0 := by
  intro hb
  have := h.smaller
  simp [hb] at this

theorem toInt_ne_zero {w : Int64} (h : w ≠ 0) : w.toInt ≠ 0 := fun hw => h (Int64.toInt_inj.mp hw)

/-- Only the smallest word, divided by minus one, has a quotient that is no word. -/
theorem fitsWord_quotient {a b : Int64} {q r : Int} (h : Divided a.toInt b.toInt q r)
    (hne : ¬ (a = Int64.minValue ∧ b = -1)) : FitsWord q := by
  obtain ⟨hlow, hhigh⟩ := fitsWord_toInt a
  have hsize : q.natAbs ≤ a.toInt.natAbs := by
    rw [((divided_iff h.divisor_ne_zero).mp h).1]
    exact Int.natAbs_tdiv_le_natAbs _ _
  unfold wordBound at hlow hhigh
  unfold FitsWord wordBound
  refine ⟨by omega, Int.not_le.mp fun hbig => hne ?_⟩
  -- the quotient would be the bound itself, and then there is only one divisor
  have hq : q = 0x8000000000000000 := by omega
  have htotal := h.total
  have hsmaller := h.smaller
  rw [hq] at htotal
  have hb : b.toInt = -1 := by omega
  have ha : a.toInt = -0x8000000000000000 := by omega
  exact ⟨Int64.toInt_inj.mp ha, Int64.toInt_inj.mp hb⟩

namespace Operator

/-- The operators that make a whole number of two whole numbers. -/
def onWholes : List Operator := [add, subtract, times, wholeTimes, wholeDivide, remainder]

/-- What an operator makes of two whole numbers, of any size. -/
inductive Exact : Operator → Int → Int → Int → Prop
  | add (a b : Int) : Exact add a b (a + b)
  | subtract (a b : Int) : Exact subtract a b (a - b)
  | times (a b : Int) : Exact times a b (a * b)
  | wholeTimes (a b : Int) : Exact wholeTimes a b (a * b)
  | quotient {a b q r : Int} : Divided a b q r → Exact wholeDivide a b q
  | rest {a b q r : Int} : Divided a b q r → Exact remainder a b r

/-- The operator divides, and there is nothing to divide by. -/
def DividesByZero (op : Operator) (b : Int64) : Prop := (op = wholeDivide ∨ op = remainder) ∧ b = 0

/-- The one result that is not given though it fits a word. -/
def Refused (op : Operator) (a b : Int64) : Prop := op = remainder ∧ a = Int64.minValue ∧ b = -1

theorem existsUnique_exact {op : Operator} (hop : op ∈ onWholes) (a : Int64) {b : Int64}
    (h : ¬ op.DividesByZero b) : ∃! r, Exact op a.toInt b.toInt r := by
  have hdivided (hdivides : op = wholeDivide ∨ op = remainder) (q r : Int) :
      Divided a.toInt b.toInt q r ↔ q = a.toInt.tdiv b.toInt ∧ r = a.toInt.tmod b.toInt :=
    divided_iff (toInt_ne_zero fun hb => h ⟨hdivides, hb⟩)
  simp only [onWholes, List.mem_cons, List.not_mem_nil, or_false] at hop
  rcases hop with rfl | rfl | rfl | rfl | rfl | rfl
  · exact ⟨_, .add _ _, fun r hr => by cases hr; rfl⟩
  · exact ⟨_, .subtract _ _, fun r hr => by cases hr; rfl⟩
  · exact ⟨_, .times _ _, fun r hr => by cases hr; rfl⟩
  · exact ⟨_, .wholeTimes _ _, fun r hr => by cases hr; rfl⟩
  · refine ⟨_, .quotient ((hdivided (.inl rfl) _ _).mpr ⟨rfl, rfl⟩), fun q hq => ?_⟩
    cases hq with
    | quotient hq => exact ((hdivided (.inl rfl) _ _).mp hq).1
  · refine ⟨_, .rest ((hdivided (.inr rfl) _ _).mpr ⟨rfl, rfl⟩), fun r hr => ?_⟩
    cases hr with
    | rest hr => exact ((hdivided (.inr rfl) _ _).mp hr).2

/-! ## The result that is given -/

theorem whole_of_fits (op : Operator) {n : Int} (h : FitsWord n) : whole op n = .ok (.int (Int64.ofInt n)) := by
  rw [whole, word?_of_fits h]

theorem whole_of_not_fits (op : Operator) {n : Int} (h : ¬ FitsWord n) : whole op n = .error (.overflow op) := by
  rw [whole, word?_of_not_fits h]

variable {patterns : Patterns}

theorem apply_divisionByZero {op : Operator} {a b : Int64} (h : op.DividesByZero b) :
    op.apply patterns (.int a) (.int b) = .error .divisionByZero := by
  obtain ⟨rfl | rfl, hb⟩ := h
  · show wholeQuotient (.int a) (.int b) = _
    rw [wholeQuotient, if_pos hb]
  · show rest (.int a) (.int b) = _
    rw [rest, if_pos hb]

theorem apply_of_exact {op : Operator} {a b : Int64} {r : Int}
    (h : Exact op a.toInt b.toInt r) (hrefused : ¬ op.Refused a b) :
    op.apply patterns (.int a) (.int b) = whole op r := by
  cases h with
  | add => rfl
  | subtract => rfl
  | times => rfl
  | wholeTimes => rfl
  | quotient h =>
    have hb := h.divisor_ne_zero
    show wholeQuotient (.int a) (.int b) = _
    rw [wholeQuotient, if_neg fun hzero => hb (congrArg Int64.toInt hzero), ((divided_iff hb).mp h).1]
  | rest h =>
    have hb := h.divisor_ne_zero
    have hquotient := fitsWord_quotient h fun ⟨ha, hb⟩ => hrefused ⟨rfl, ha, hb⟩
    obtain ⟨rfl, rfl⟩ := (divided_iff hb).mp h
    show rest (.int a) (.int b) = _
    rw [rest, if_neg fun hzero => hb (congrArg Int64.toInt hzero), whole_of_fits _ hquotient]
    rfl

theorem apply_refused {op : Operator} {a b : Int64} (h : op.Refused a b) :
    op.apply patterns (.int a) (.int b) = .error (.overflow op) := by
  obtain ⟨rfl, rfl, rfl⟩ := h
  rfl

theorem apply_of_fits {op : Operator} {a b : Int64} {r : Int}
    (h : Exact op a.toInt b.toInt r) (hgiven : FitsWord r ∧ ¬ op.Refused a b) :
    op.apply patterns (.int a) (.int b) = .ok (.int (Int64.ofInt r)) := by
  rw [apply_of_exact h hgiven.2, whole_of_fits op hgiven.1]

theorem apply_overflow {op : Operator} {a b : Int64} {r : Int}
    (h : Exact op a.toInt b.toInt r) (hover : ¬ (FitsWord r ∧ ¬ op.Refused a b)) :
    op.apply patterns (.int a) (.int b) = .error (.overflow op) := by
  by_cases hrefused : op.Refused a b
  · exact apply_refused hrefused
  · rw [apply_of_exact h hrefused, whole_of_not_fits op fun hfits => hover ⟨hfits, hrefused⟩]

/-- On two words an operator divides by zero if it divides and the divisor is zero.
    Otherwise there is one exact result. The operator gives it if it fits a word, and
    overflows if it does not, except for the remainder that is refused: that of the
    smallest word by minus one, which is zero and overflows all the same. -/
theorem whole_numbers_exact (patterns : Patterns) {op : Operator} (hop : op ∈ onWholes) (a b : Int64) :
    let result := op.apply patterns (.int a) (.int b)
    (result = .error .divisionByZero ↔ op.DividesByZero b) ∧
    (¬ op.DividesByZero b → ∃! r, Exact op a.toInt b.toInt r) ∧
    ∀ r, Exact op a.toInt b.toInt r →
      ((∃ w : Int64, w.toInt = r ∧ result = .ok (.int w)) ↔ FitsWord r ∧ ¬ op.Refused a b) ∧
      (result = .error (.overflow op) ↔ ¬ (FitsWord r ∧ ¬ op.Refused a b)) := by
  intro result
  refine ⟨⟨fun h => ?_, apply_divisionByZero⟩, existsUnique_exact hop a, fun r hr => ⟨⟨?_, ?_⟩, ?_, ?_⟩⟩
  · -- an exact result would be given, or be an overflow
    refine Classical.byContradiction fun hzero => ?_
    obtain ⟨r, hr, -⟩ := existsUnique_exact hop a hzero
    by_cases hgiven : FitsWord r ∧ ¬ op.Refused a b
    · cases (apply_of_fits hr hgiven).symm.trans h
    · cases (apply_overflow hr hgiven).symm.trans h
  · rintro ⟨w, -, hw⟩
    refine Classical.byContradiction fun hover => ?_
    cases (apply_overflow hr hover).symm.trans hw
  · intro hgiven
    exact ⟨Int64.ofInt r, toInt_ofInt hgiven.1, apply_of_fits hr hgiven⟩
  · intro hresult hgiven
    cases (apply_of_fits hr hgiven).symm.trans hresult
  · exact apply_overflow hr

/-- The remainder has the sign of the dividend, and the quotient is nearer to zero. -/
theorem whole_numbers_exact_negative :
    wholeDivide ∈ onWholes ∧ Divided (-7) 2 (-3) (-1) ∧
      ∃ w : Int64, w.toInt = -3 ∧ wholeDivide.apply Pattern.compile (.int (-7)) (.int 2) = .ok (.int w) := by
  have hop : wholeDivide ∈ onWholes := by decide
  have hdivided : Divided (-7) 2 (-3) (-1) := ⟨rfl, by decide, by decide, by decide⟩
  have hrefused : ¬ wholeDivide.Refused (-7) 2 := fun h => nomatch h.1
  obtain ⟨-, -, hexact⟩ := whole_numbers_exact Pattern.compile hop (-7) 2
  exact ⟨hop, hdivided, (hexact (-3) (.quotient hdivided)).1.mpr ⟨⟨by decide, by decide⟩, hrefused⟩⟩

/-- Zero is the remainder of the smallest word by minus one, and fits a word. -/
theorem refused_remainder :
    Exact remainder Int64.minValue.toInt (-1 : Int64).toInt 0 ∧ FitsWord 0 ∧
      remainder.apply Pattern.compile (.int Int64.minValue) (.int (-1)) = .error (.overflow remainder) :=
  ⟨.rest (q := wordBound) ⟨rfl, by decide, by decide, by decide⟩, ⟨by decide, by decide⟩, rfl⟩

end Operator

end TemplateEngine
