/-
  TemplateEngine.Proofs.Number — which whole numbers have a word.

  Proved:
  - `word?_eq_some_iff`: the word of a number is the one that stands for it.
-/

import TemplateEngine.Number

namespace TemplateEngine

/-- The whole numbers that words stand for. -/
def FitsWord (n : Int) : Prop := -wordBound ≤ n ∧ n < wordBound

theorem fitsWord_toInt (w : Int64) : FitsWord w.toInt := ⟨w.le_toInt, w.toInt_lt⟩

theorem toInt_ofInt {n : Int} (h : FitsWord n) : (Int64.ofInt n).toInt = n := Int64.toInt_ofInt_of_le h.1 h.2

theorem word?_of_fits {n : Int} (h : FitsWord n) : word? n = some (Int64.ofInt n) := if_pos h

theorem word?_of_not_fits {n : Int} (h : ¬ FitsWord n) : word? n = none := if_neg h

theorem word?_eq_some_iff {n : Int} {w : Int64} : word? n = some w ↔ w.toInt = n := by
  constructor
  · intro h
    by_cases hn : FitsWord n
    · rw [word?_of_fits hn] at h
      rw [← Option.some.inj h, toInt_ofInt hn]
    · rw [word?_of_not_fits hn] at h
      cases h
  · intro h
    subst h
    rw [word?_of_fits (fitsWord_toInt w), Int64.ofInt_toInt]

end TemplateEngine
