/-
  TemplateEngine.Proofs.Operator.Comparison — comparisons of whole numbers and of texts.

  Equality and the four orderings are computed apart: a character is equal to the string
  that holds it, while the orderings take both by their text. On whole numbers, and on texts
  of both kinds, all six still answer by one order (`order`): each accepts some of its three
  verdicts.

  Proved:
  - `order_swap`, `order_trans`: the order turned around, and carried on.
  - `order_lt_iff_bytes`: texts are in the order of their bytes.
  - `apply_comparison`: what a comparison answers, by the order of its operands.
  - `comparisons_agree`: the laws of the comparisons.
-/

import Mathlib.Data.String.Basic
import Mathlib.Logic.ExistsUnique
import TemplateEngine.Operator.Apply
import TemplateEngine.Pattern.Parser
import TemplateEngine.Proofs.Json.KeyOrder

namespace TemplateEngine

namespace Value

/-- Values of which one comes first: two whole numbers, or two texts of either kind. -/
inductive Comparable : Value → Value → Prop
  | wholes (m n : Int64) : Comparable (.int m) (.int n)
  | texts {a b : Value} : a.isText = true → b.isText = true → Comparable a b

/-- Which of two comparable values comes first. -/
def order : Value → Value → Ordering
  | int m, int n => compare m.toInt n.toInt
  | a, b => compare a.text b.text

theorem order_texts {a b : Value} (ha : a.isText = true) : order a b = compare a.text b.text := by
  cases a <;> cases b <;> simp_all [order, isText]

theorem Comparable.symm {a b : Value} (h : Comparable a b) : Comparable b a := by
  cases h with
  | wholes m n => exact .wholes n m
  | texts ha hb => exact .texts hb ha

theorem Comparable.trans {a b c : Value} (hab : Comparable a b) (hbc : Comparable b c) : Comparable a c := by
  cases hab with
  | wholes m n =>
    cases hbc with
    | wholes _ k => exact .wholes m k
    | texts hn _ => cases hn
  | texts ha hb =>
    cases hbc with
    | wholes => cases hb
    | texts _ hc => exact .texts ha hc

theorem order_swap {a b : Value} (h : Comparable a b) : order b a = (order a b).swap := by
  cases h with
  | wholes m n => exact Std.OrientedOrd.eq_swap (a := n.toInt)
  | texts ha hb =>
    rw [order_texts ha, order_texts hb]
    exact Std.OrientedOrd.eq_swap

theorem order_trans {a b c : Value} (hab : Comparable a b) (hbc : Comparable b c)
    (h : order a b = .lt) (h' : order b c = .lt) : order a c = .lt := by
  cases hab with
  | wholes m n =>
    cases hbc with
    | wholes _ k =>
      show compare m.toInt k.toInt = .lt
      exact Std.TransCmp.lt_trans h h'
    | texts hn _ => cases hn
  | texts ha hb =>
    rw [order_texts ha] at h ⊢
    rw [order_texts hb] at h'
    exact Std.TransCmp.lt_trans h h'

theorem order_lt_iff_bytes {a b : Value} (ha : a.isText = true) :
    order a b = .lt ↔ a.text.toUTF8.data.toList < b.text.toUTF8.data.toList := by
  rw [order_texts ha, compare_lt_iff_lt]
  exact Json.keyBytes_lt_iff a.text b.text

theorem equals_texts {a b : Value} (ha : a.isText = true) (hb : b.isText = true) :
    a.equals b = (a.text == b.text) := by
  cases a with
  | char c =>
    cases b with
    | char d =>
      rw [Bool.eq_iff_iff]
      simp [equals, same, text]
    | string s => simp [equals, text, isJust_eq, Bool.beq_comm]
    | _ => cases hb
  | string s =>
    cases b with
    | char d => simp [equals, text, isJust_eq]
    | string t => simp [equals, same, text]
    | _ => cases hb
  | _ => cases ha

end Value

namespace Operator

open Value

def comparisons : List Operator := [less, lessOrEqual, equal, different, greaterOrEqual, greater]

/-- What a comparison accepts of the order of its operands. -/
def accepts : Operator → Ordering → Bool
  | less => Ordering.isLT
  | lessOrEqual => Ordering.isLE
  | equal => Ordering.isEq
  | different => Ordering.isNe
  | greaterOrEqual => Ordering.isGE
  | greater => Ordering.isGT
  | _ => fun _ => false

/-- The comparison that accepts one order only. -/
def ofOrder : Ordering → Operator
  | .lt => less
  | .eq => equal
  | .gt => greater

theorem accepts_iff {op : Operator} (hop : op ∈ [less, equal, greater]) (o : Ordering) :
    op.accepts o = true ↔ op = ofOrder o := by
  simp only [List.mem_cons, List.not_mem_nil, or_false] at hop
  rcases hop with rfl | rfl | rfl <;> cases o <;> simp [accepts, ofOrder]

variable {patterns : Patterns} {a b c : Value}

theorem compare_eq (op : Operator) (accept : Ordering → Bool) (h : Comparable a b) :
    compare op accept a b = .ok (.bool (accept (order a b))) := by
  cases h with
  | wholes m n => rfl
  | texts ha hb =>
    rw [order_texts ha]
    cases a <;> cases b <;> simp_all [compare, isText]

theorem equals_eq (h : Comparable a b) : a.equals b = (order a b).isEq := by
  rw [Bool.eq_iff_iff, Ordering.isEq_iff_eq_eq]
  cases h with
  | wholes m n => simp [equals, order, Int64.toInt_inj]
  | texts ha hb => simp [equals_texts ha hb, order_texts ha]

theorem apply_comparison {op : Operator} (hop : op ∈ comparisons) (h : Comparable a b) :
    op.apply patterns a b = .ok (.bool (op.accepts (order a b))) := by
  simp only [comparisons, List.mem_cons, List.not_mem_nil, or_false] at hop
  rcases hop with rfl | rfl | rfl | rfl | rfl | rfl
  · exact compare_eq less Ordering.isLT h
  · exact compare_eq lessOrEqual Ordering.isLE h
  · rw [apply, equals_eq h]
    rfl
  · rw [apply, equals_eq h]
    cases order a b <;> rfl
  · exact compare_eq greaterOrEqual Ordering.isGE h
  · exact compare_eq greater Ordering.isGT h

/-- The operator answers that it is so. -/
def Holds (patterns : Patterns) (op : Operator) (a b : Value) : Prop := op.apply patterns a b = .ok (.bool true)

theorem holds_iff {op : Operator} (hop : op ∈ comparisons) (h : Comparable a b) :
    op.Holds patterns a b ↔ op.accepts (order a b) = true := by
  rw [Holds, apply_comparison hop h]
  simp

theorem holds_iff_ofOrder {op : Operator} (hop : op ∈ [less, equal, greater])
    (h : Comparable a b) : op.Holds patterns a b ↔ op = ofOrder (order a b) := by
  have hcomparison : [less, equal, greater] ⊆ comparisons := by decide
  rw [holds_iff (hcomparison hop) h, accepts_iff hop]

theorem holds_less_iff (h : Comparable a b) : less.Holds patterns a b ↔ order a b = .lt := by
  rw [holds_iff_ofOrder (by decide) h]
  cases order a b <;> simp [ofOrder]

/-- Two whole numbers, or two texts of either kind, are less, equal or greater, and only one
    of the three. The other comparisons follow from these, and less is turned around by
    greater and leads on from one value to the next. None of them fails. Texts are in the
    order of their bytes. -/
theorem comparisons_agree (patterns : Patterns) (h : Comparable a b) :
    (∃! op, op ∈ [less, equal, greater] ∧ op.Holds patterns a b) ∧
    (lessOrEqual.Holds patterns a b ↔ less.Holds patterns a b ∨ equal.Holds patterns a b) ∧
    (greaterOrEqual.Holds patterns a b ↔ greater.Holds patterns a b ∨ equal.Holds patterns a b) ∧
    (different.Holds patterns a b ↔ ¬ equal.Holds patterns a b) ∧
    (less.Holds patterns a b ↔ greater.Holds patterns b a) ∧
    (∀ c, Comparable b c → less.Holds patterns a b → less.Holds patterns b c → less.Holds patterns a c) ∧
    (∀ op ∈ comparisons, ∃ answer, op.apply patterns a b = .ok (.bool answer)) ∧
    (a.isText = true → (less.Holds patterns a b ↔ a.text.toUTF8.data.toList < b.text.toUTF8.data.toList)) := by
  have hone {op : Operator} (hop : op ∈ [less, equal, greater]) :
      op.Holds patterns a b ↔ op = ofOrder (order a b) := holds_iff_ofOrder hop h
  refine ⟨⟨ofOrder (order a b), ⟨?_, ?_⟩, fun op hop => (hone hop.1).mp hop.2⟩, ?_, ?_, ?_, ?_,
    fun c hbc hab hbc' => ?_, fun op hop => ⟨_, apply_comparison hop h⟩, fun ha => ?_⟩
  · cases order a b <;> decide
  · refine (hone ?_).mpr rfl
    cases order a b <;> decide
  · rw [holds_iff (by decide) h, holds_iff (by decide) h, holds_iff (by decide) h]
    cases order a b <;> simp [accepts]
  · rw [holds_iff (by decide) h, holds_iff (by decide) h, holds_iff (by decide) h]
    cases order a b <;> simp [accepts]
  · rw [holds_iff (by decide) h, holds_iff (by decide) h]
    cases order a b <;> simp [accepts]
  · rw [holds_iff (by decide) h, holds_iff (by decide) h.symm, order_swap h]
    cases order a b <;> simp [accepts]
  · rw [holds_less_iff h] at hab
    rw [holds_less_iff hbc] at hbc'
    exact (holds_less_iff (h.trans hbc)).mpr (order_trans h hbc hab hbc')
  · rw [holds_less_iff h]
    exact order_lt_iff_bytes ha

/-- The last character of two bytes comes before the first one of three, as a text of either
    kind. -/
theorem comparisons_agree_texts :
    let a : Value := .string "\u07ff!"
    let b : Value := .char '\u0800'
    Comparable a b ∧ less.Holds Pattern.compile a b ∧ greater.Holds Pattern.compile b a ∧
      ¬ equal.Holds Pattern.compile a b := by
  intro a b
  have h : Comparable a b := .texts rfl rfl
  have hless : less.Holds Pattern.compile a b := (holds_less_iff h).mpr (by decide +kernel)
  obtain ⟨hone, -, -, -, hturned, -⟩ := comparisons_agree Pattern.compile h
  refine ⟨h, hless, hturned.mp hless, fun hequal => ?_⟩
  have heq : less = equal := hone.unique ⟨by decide, hless⟩ ⟨by decide, hequal⟩
  cases heq

end Operator

end TemplateEngine
