/-
  TemplateEngine.Proofs.Evaluation.Sums — chains, and sums and differences of words.

  A chain is computed from the left, and brackets around the operands that come first say
  what is done anyway. In a chain of sums and differences each result on the way has to
  fit a word; one that does not is an overflow, even if what follows would lead back.

  Proved, in every environment and scope:
  - `continueChain_append`: a chain goes on from the value of its first operators.
  - `evaluate_bracketed`: so brackets around its first operands do not change it.
  - `continueChain_summands`, `continueChain_overflow`: a chain whose results all fit has the
    last one as its value, and any other ends at the first that does not.
  - `sums_exact`: the value of a chain of sums and differences, or where it overflows.
-/

import TemplateEngine.Evaluate
import TemplateEngine.Proofs.Except
import TemplateEngine.Proofs.Operator.WholeNumbers

namespace TemplateEngine

namespace Environment

variable (env : Environment) (scope : Scope)

/-! ## Chains -/

theorem continueChain_nil (left : Value) (ops : List Operator) :
    env.continueChain scope left [] ops = .ok left := by
  rw [continueChain]
  intro e es op rest h
  cases h

theorem continueChain_append (left : Value) {es : List Expr} {ops : List Operator}
    (h : es.length = ops.length) (es' : List Expr) (ops' : List Operator) :
    env.continueChain scope left (es ++ es') (ops ++ ops') =
      (do env.continueChain scope (← env.continueChain scope left es ops) es' ops') := by
  induction es generalizing left ops with
  | nil =>
    obtain rfl := List.length_eq_zero_iff.mp h.symm
    rw [continueChain_nil]
    rfl
  | cons e es ih =>
    cases ops with
    | nil => cases h
    | cons op ops =>
      simp only [List.cons_append, continueChain, bind_assoc]
      simp only [ih _ (Nat.succ.inj h)]

/-- Brackets around the first operands of a chain. -/
theorem evaluate_bracketed (first : Expr) {es : List Expr} {ops : List Operator}
    (h : es.length = ops.length) (es' : List Expr) (ops' : List Operator) :
    env.evaluate scope (.chain (.chain (first :: es) ops :: es') ops') =
      env.evaluate scope (.chain (first :: (es ++ es')) (ops ++ ops')) := by
  simp only [evaluate, evaluateChain, bind_assoc, env.continueChain_append scope _ h]

end Environment

/-! ## Sums and differences -/

/-- A word that a sum goes up or down by. -/
inductive Summand where
  | plus (n : Int64)
  | minus (n : Int64)

namespace Summand

def operator : Summand → Operator
  | plus _ => .add
  | minus _ => .subtract

def number : Summand → Int64
  | plus n => n
  | minus n => n

def operand (s : Summand) : Expr := .literal (.int s.number)

/-- The exact sum or difference. -/
def onto (total : Int) : Summand → Int
  | plus n => total + n.toInt
  | minus n => total - n.toInt

theorem apply_number (patterns : Operator.Patterns) (w : Int64) (s : Summand) :
    s.operator.apply patterns (.int w) (.int s.number) = Operator.whole s.operator (s.onto w.toInt) := by
  cases s with
  | plus n => exact Operator.apply_of_exact (.add w.toInt n.toInt) fun h => nomatch h.1
  | minus n => exact Operator.apply_of_exact (.subtract w.toInt n.toInt) fun h => nomatch h.1

theorem length_operands (summands : List Summand) :
    (summands.map operand).length = (summands.map operator).length := by
  rw [List.length_map, List.length_map]

end Summand

def sumChain (first : Int64) (summands : List Summand) : Expr :=
  .chain (.literal (.int first) :: summands.map Summand.operand) (summands.map Summand.operator)

/-- The exact result behind the first `k` summands. -/
def partialSum (first : Int64) (summands : List Summand) (k : Nat) : Int :=
  (summands.take k).foldl Summand.onto first.toInt

theorem partialSum_take (first : Int64) (summands : List Summand) {j k : Nat} (h : j ≤ k) :
    partialSum first (summands.take k) j = partialSum first summands j := by
  unfold partialSum
  rw [List.take_take, Nat.min_eq_left h]

theorem partialSum_succ (first : Int64) (summands : List Summand) {k : Nat} (h : k < summands.length) :
    partialSum first summands (k + 1) = summands[k].onto (partialSum first summands k) := by
  unfold partialSum
  rw [List.take_succ_eq_append_getElem h, List.foldl_append]
  rfl

namespace Environment

variable (env : Environment) (scope : Scope)

theorem continueChain_summand (w : Int64) (s : Summand) (rest : List Summand) :
    env.continueChain scope (.int w) ((s :: rest).map Summand.operand) ((s :: rest).map Summand.operator) =
      (do
        let v ← Operator.whole s.operator (s.onto w.toInt)
        env.continueChain scope v (rest.map Summand.operand) (rest.map Summand.operator)) := by
  simp only [List.map_cons, continueChain]
  rw [Summand.operand, evaluate, Literal.value, Except.ok_bind, Summand.apply_number]

/-- A chain goes on while the results fit; `w` is the result so far. -/
theorem continueChain_summands (w : Int64) (summands : List Summand)
    (h : ∀ k ≤ summands.length, FitsWord (partialSum w summands k)) :
    env.continueChain scope (.int w) (summands.map Summand.operand) (summands.map Summand.operator) =
      .ok (.int (Int64.ofInt (partialSum w summands summands.length))) := by
  induction summands generalizing w with
  | nil =>
    have hnone : partialSum w [] 0 = w.toInt := rfl
    rw [List.map_nil, continueChain_nil, List.length_nil, hnone, Int64.ofInt_toInt]
  | cons s rest ih =>
    have hfirst : FitsWord (s.onto w.toInt) := h 1 (by simp)
    have hmoved (k : Nat) : partialSum (Int64.ofInt (s.onto w.toInt)) rest k = partialSum w (s :: rest) (k + 1) := by
      simp [partialSum, toInt_ofInt hfirst]
    rw [continueChain_summand, Operator.whole_of_fits _ hfirst, Except.ok_bind, ih, hmoved, List.length_cons]
    intro k hk
    rw [hmoved]
    exact h (k + 1) (by simpa using hk)

/-- The chain ends at the first summand whose result fits no word, whatever follows it. -/
theorem continueChain_overflow (w : Int64) (summands : List Summand) {k : Nat} (hk : k < summands.length)
    (h : ∀ j ≤ k, FitsWord (partialSum w summands j)) (hover : ¬ FitsWord (partialSum w summands (k + 1))) :
    env.continueChain scope (.int w) (summands.map Summand.operand) (summands.map Summand.operator) =
      .error (.overflow summands[k].operator) := by
  have htake : (summands.take k).length = k := List.length_take_of_le (Nat.le_of_lt hk)
  have hsplit : summands = summands.take k ++ summands[k] :: summands.drop (k + 1) := by
    rw [← List.drop_eq_getElem_cons hk, List.take_append_drop]
  -- the summands before it lead to a word
  have hbefore := env.continueChain_summands scope w (summands.take k) fun j hj => by
    rw [htake] at hj
    rw [partialSum_take w summands hj]
    exact h j hj
  rw [htake, partialSum_take w summands (Nat.le_refl k)] at hbefore
  rw [partialSum_succ w summands hk] at hover
  calc env.continueChain scope (.int w) (summands.map Summand.operand) (summands.map Summand.operator)
    _ = (do
          let v ← env.continueChain scope (.int w) ((summands.take k).map Summand.operand)
            ((summands.take k).map Summand.operator)
          env.continueChain scope v ((summands[k] :: summands.drop (k + 1)).map Summand.operand)
            ((summands[k] :: summands.drop (k + 1)).map Summand.operator)) := by
      rw [← env.continueChain_append scope _ (Summand.length_operands _), ← List.map_append, ← List.map_append,
        ← hsplit]
    _ = .error (.overflow summands[k].operator) := by
      rw [hbefore, Except.ok_bind, continueChain_summand, toInt_ofInt (h k (Nat.le_refl k)),
        Operator.whole_of_not_fits _ hover]
      rfl

theorem evaluate_sumChain (first : Int64) (summands : List Summand) :
    env.evaluate scope (sumChain first summands) =
      env.continueChain scope (.int first) (summands.map Summand.operand) (summands.map Summand.operator) := by
  rw [sumChain, evaluate, evaluateChain, evaluate, Literal.value, Except.ok_bind]

/-- A chain of sums and differences has its exact value, if the results behind all of its
    summands fit a word. It is an overflow at the first operator whose result does not,
    even if a later result would fit again. Brackets around what comes first do not
    change its value, nor its failure. -/
theorem sums_exact (first : Int64) (summands : List Summand) :
    let result := partialSum first summands
    let value := env.evaluate scope (sumChain first summands)
    ((∀ k ≤ summands.length, FitsWord (result k)) →
      ∃ w : Int64, w.toInt = result summands.length ∧ value = .ok (.int w)) ∧
    (∀ k (hk : k < summands.length), (∀ j ≤ k, FitsWord (result j)) → ¬ FitsWord (result (k + 1)) →
      value = .error (.overflow summands[k].operator)) ∧
    ∀ k, env.evaluate scope (.chain
      (sumChain first (summands.take k) :: (summands.drop k).map Summand.operand)
      ((summands.drop k).map Summand.operator)) = value := by
  intro result value
  have hvalue : value = env.continueChain scope (.int first) (summands.map Summand.operand)
      (summands.map Summand.operator) := env.evaluate_sumChain scope first summands
  refine ⟨fun h => ?_, fun k hk h hover => ?_, fun k => ?_⟩
  · exact ⟨_, toInt_ofInt (h summands.length (Nat.le_refl _)),
      hvalue.trans (env.continueChain_summands scope first summands h)⟩
  · exact hvalue.trans (env.continueChain_overflow scope first summands hk h hover)
  · rw [sumChain, env.evaluate_bracketed scope _ (Summand.length_operands _), ← List.map_append,
      ← List.map_append, List.take_append_drop]
    rfl

/-- One more than the largest word is an overflow, though taking one away would lead back. -/
theorem sums_exact_past_the_largest :
    let env : Environment := {}
    let summands : List Summand := [.plus 1, .minus 1]
    ¬ FitsWord (partialSum Int64.maxValue summands 1) ∧ FitsWord (partialSum Int64.maxValue summands 2) ∧
      env.evaluate { caller := [] } (sumChain Int64.maxValue summands) = .error (.overflow .add) := by
  intro env summands
  have hover : ¬ FitsWord (partialSum Int64.maxValue summands 1) := fun h => absurd h.2 (by decide)
  have hstart (j : Nat) (hj : j ≤ 0) : FitsWord (partialSum Int64.maxValue summands j) := by
    obtain rfl := Nat.le_zero.mp hj
    exact fitsWord_toInt Int64.maxValue
  obtain ⟨-, hoverflow, -⟩ := env.sums_exact { caller := [] } Int64.maxValue summands
  exact ⟨hover, fitsWord_toInt Int64.maxValue, hoverflow 0 (by decide) hstart hover⟩

end Environment

end TemplateEngine
