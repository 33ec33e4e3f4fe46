/-
  TemplateEngine.Proofs.Evaluation.Ranges — ranges of whole numbers and of characters.

  A range has both of its bounds and goes from the first to the last, up or down. It is too
  large if it would have more elements than the settings allow. A range of characters is
  measured by their codes, of which the surrogates are no characters, so that it may be
  found too large for fewer characters than that.

  Proved:
  - `getElem_steps`, `mem_steps`, `reverse_steps`: the numbers from one bound to the other, up
    and down.
  - `counts_wordsBetween`, `spells_charsBetween`: the words and the characters among them.
  - `ranges_exact`: what a range evaluates to, and that the opposite range is its reverse.
-/

import Mathlib.Data.List.Chain
import TemplateEngine.Evaluate
import TemplateEngine.Proofs.Number

namespace TemplateEngine

/-! ## The numbers between two bounds -/

theorem length_upward (low high : Int) : (upward low high).length = (high + 1 - low).toNat := by
  simp [upward]

theorem getElem_upward {low high : Int} {i : Nat} (h : i < (upward low high).length) :
    (upward low high)[i] = low + i := by
  simp [upward]

theorem mem_upward {low high n : Int} : n ∈ upward low high ↔ low ≤ n ∧ n ≤ high := by
  simp only [upward, List.mem_map, List.mem_range]
  constructor
  · rintro ⟨i, hi, rfl⟩
    omega
  · intro h
    exact ⟨(n - low).toNat, by omega, by omega⟩

theorem pairwise_upward (low high : Int) : (upward low high).Pairwise (· < ·) := by
  refine List.Pairwise.map _ (fun i j hij => ?_) List.pairwise_lt_range
  omega

theorem steps_upward {first last : Int} (h : first ≤ last) : steps first last = upward first last := if_pos h

theorem steps_downward {first last : Int} (h : last < first) : steps first last = (upward last first).reverse :=
  if_neg (by omega)

theorem length_steps (first last : Int) : (steps first last).length = (last - first).natAbs + 1 := by
  unfold steps
  split
  · rw [length_upward]
    omega
  · rw [List.length_reverse, length_upward]
    omega

/-- Up or down, the numbers are a step apart. -/
theorem getElem_steps {first last : Int} {i : Nat} (h : i < (steps first last).length) :
    (steps first last)[i] = first + i * (last - first).sign := by
  have hi : i < (last - first).natAbs + 1 := length_steps first last ▸ h
  rcases Int.lt_trichotomy first last with hlt | rfl | hgt
  · simp only [steps_upward (Int.le_of_lt hlt), getElem_upward]
    rw [Int.sign_eq_one_of_pos (by omega)]
    omega
  · simp only [steps_upward (Int.le_refl first), getElem_upward]
    simp
    omega
  · simp only [steps_downward hgt, List.getElem_reverse, getElem_upward, length_upward]
    rw [Int.sign_eq_neg_one_of_neg (by omega)]
    omega

theorem mem_steps {first last n : Int} :
    n ∈ steps first last ↔ first ≤ n ∧ n ≤ last ∨ last ≤ n ∧ n ≤ first := by
  unfold steps
  split
  · rw [mem_upward]
    omega
  · rw [List.mem_reverse, mem_upward]
    omega

theorem reverse_steps (first last : Int) : (steps first last).reverse = steps last first := by
  rcases Int.lt_trichotomy first last with hlt | rfl | hgt
  · rw [steps_upward (Int.le_of_lt hlt), steps_downward hlt]
  · rw [steps_upward (Int.le_refl first)]
    have hone : (first + 1 - first).toNat = 1 := by omega
    rw [upward, hone]
    rfl
  · rw [steps_downward hgt, steps_upward (Int.le_of_lt hgt), List.reverse_reverse]

/-! ## Words and characters -/

/-- Words in steps of one from the first to the last. -/
structure Counts (first last : Int64) (words : List Int64) : Prop where
  length : words.length = (last.toInt - first.toInt).natAbs + 1
  starts : words.head? = some first
  ends : words.getLast? = some last
  step : words.IsChain fun n m => m.toInt = n.toInt + (last.toInt - first.toInt).sign

/-- All characters from the first to the last, each once, in their order. -/
structure Spells (first last : Char) (chars : List Char) : Prop where
  mem (c : Char) : c ∈ chars ↔ first ≤ c ∧ c ≤ last ∨ last ≤ c ∧ c ≤ first
  upward : first ≤ last → chars.Pairwise (· < ·)
  downward : last ≤ first → chars.Pairwise (· > ·)

def wordsBetween (first last : Int64) : List Int64 := (steps first.toInt last.toInt).map Int64.ofInt

def charsBetween (first last : Char) : List Char :=
  (steps first.toNat last.toNat).filterMap fun n => Scan.charOfCode? n.toNat

theorem toInt_of_mem_steps {first last : Int64} {n : Int} (h : n ∈ steps first.toInt last.toInt) :
    (Int64.ofInt n).toInt = n := by
  obtain ⟨hlow, hhigh⟩ := fitsWord_toInt first
  obtain ⟨hlow', hhigh'⟩ := fitsWord_toInt last
  refine toInt_ofInt ?_
  rcases mem_steps.mp h with h | h
  · exact ⟨by omega, by omega⟩
  · exact ⟨by omega, by omega⟩

theorem toInt_getElem_wordsBetween {first last : Int64} {i : Nat} (h : i < (wordsBetween first last).length) :
    (wordsBetween first last)[i].toInt = first.toInt + i * (last.toInt - first.toInt).sign := by
  have hsteps : i < (steps first.toInt last.toInt).length := by simpa [wordsBetween] using h
  rw [← getElem_steps hsteps, ← toInt_of_mem_steps (List.getElem_mem hsteps)]
  simp [wordsBetween]

theorem counts_wordsBetween (first last : Int64) : Counts first last (wordsBetween first last) := by
  have hlength : (wordsBetween first last).length = (last.toInt - first.toInt).natAbs + 1 := by
    rw [wordsBetween, List.length_map, length_steps]
  refine ⟨hlength, ?_, ?_, ?_⟩
  · rw [List.head?_eq_getElem?, List.getElem?_eq_some_iff]
    refine ⟨by omega, Int64.toInt_inj.mp ?_⟩
    rw [toInt_getElem_wordsBetween]
    omega
  · rw [List.getLast?_eq_getElem?, List.getElem?_eq_some_iff]
    refine ⟨by omega, Int64.toInt_inj.mp ?_⟩
    rw [toInt_getElem_wordsBetween, hlength, Nat.add_sub_cancel, Int.mul_comm, Int.sign_mul_natAbs]
    omega
  · rw [List.isChain_iff_getElem]
    intro i hi
    rw [toInt_getElem_wordsBetween, toInt_getElem_wordsBetween, Int.natCast_add, Int.add_mul]
    omega

theorem reverse_wordsBetween (first last : Int64) :
    (wordsBetween first last).reverse = wordsBetween last first := by
  rw [wordsBetween, ← List.map_reverse, reverse_steps, wordsBetween]

theorem mem_charsBetween {first last c : Char} :
    c ∈ charsBetween first last ↔ first ≤ c ∧ c ≤ last ∨ last ≤ c ∧ c ≤ first := by
  have hle (c d : Char) : c ≤ d ↔ c.toNat ≤ d.toNat := Iff.rfl
  rw [charsBetween, List.mem_filterMap, hle, hle, hle, hle]
  constructor
  · rintro ⟨n, hn, hc⟩
    have hcode : c.toNat = n.toNat := Scan.charOfCode?_eq_some_iff.mp hc
    have hn := mem_steps.mp hn
    omega
  · intro h
    exact ⟨c.toNat, mem_steps.mpr (by omega), Scan.charOfCode?_eq_some_iff.mpr rfl⟩

theorem reverse_charsBetween (first last : Char) :
    (charsBetween first last).reverse = charsBetween last first := by
  rw [charsBetween, ← List.filterMap_reverse, reverse_steps, charsBetween]

theorem pairwise_charsBetween {first last : Char} (h : first ≤ last) :
    (charsBetween first last).Pairwise (· < ·) := by
  have hfirst : (first.toNat : Int) ≤ last.toNat := Int.ofNat_le.mpr h
  rw [charsBetween, List.pairwise_filterMap]
  rw [steps_upward hfirst]
  refine (pairwise_upward _ _).imp_of_mem fun hn _ hlt c hc d hd => ?_
  have hcode := Scan.charOfCode?_eq_some_iff.mp hc
  have hcode' := Scan.charOfCode?_eq_some_iff.mp hd
  have hn := mem_upward.mp hn
  show c.toNat < d.toNat
  omega

theorem spells_charsBetween (first last : Char) : Spells first last (charsBetween first last) := by
  refine ⟨fun c => mem_charsBetween, pairwise_charsBetween, fun h => ?_⟩
  -- downward is upward, read from the end
  rw [← reverse_charsBetween, List.pairwise_reverse]
  exact pairwise_charsBetween h

theorem length_charsBetween_le (first last : Char) :
    (charsBetween first last).length ≤ ((last.toNat : Int) - first.toNat).natAbs + 1 := by
  rw [← length_steps]
  exact List.length_filterMap_le _ _

/-! ## Evaluation -/

/-- How many elements a range counts; characters are counted with the codes between them. -/
def rangeCount (first last : Int) : Nat := (last - first).natAbs + 1

theorem rangeCount_comm (first last : Int) : rangeCount last first = rangeCount first last := by
  unfold rangeCount
  omega

theorem checkRange_eq (max : Nat) (first last : Int) (firstText lastText : String) :
    checkRange max first last firstText lastText =
      if max < rangeCount first last then .error (.rangeTooLarge firstText lastText max) else .ok () := by
  unfold checkRange rangeCount
  by_cases h : max ≤ (last - first).natAbs
  · rw [if_pos h, if_pos (by omega)]
  · rw [if_neg h, if_neg (by omega)]

theorem intRange_eq (max : Nat) (first last : Int64) :
    intRange max first last = if max < rangeCount first.toInt last.toInt then
      .error (.rangeTooLarge (toString first.toInt) (toString last.toInt) max)
    else .ok (.list ((wordsBetween first last).map .int)) := by
  rw [intRange, checkRange_eq, wordsBetween, List.map_map]
  split <;> rfl

theorem charRange_eq (max : Nat) (first last : Char) :
    charRange max first last = if max < rangeCount first.toNat last.toNat then
      .error (.rangeTooLarge first.toString last.toString max)
    else .ok (.list ((charsBetween first last).map .char)) := by
  rw [charRange, checkRange_eq, charsBetween, List.map_filterMap]
  split <;> rfl

theorem intRange_opposite (max : Nat) (first last : Int64) :
    intRange max last first = if max < rangeCount first.toInt last.toInt then
      .error (.rangeTooLarge (toString last.toInt) (toString first.toInt) max)
    else .ok (.list ((wordsBetween first last).map .int).reverse) := by
  rw [intRange_eq, rangeCount_comm, ← reverse_wordsBetween, List.map_reverse]

theorem charRange_opposite (max : Nat) (first last : Char) :
    charRange max last first = if max < rangeCount first.toNat last.toNat then
      .error (.rangeTooLarge last.toString first.toString max)
    else .ok (.list ((charsBetween first last).map .char).reverse) := by
  rw [charRange_eq, rangeCount_comm, ← reverse_charsBetween, List.map_reverse]

/-- A range that is a list unless it is too large, and the opposite one with it. -/
theorem range_outcome {tooLarge : Prop} [Decidable tooLarge] {range opposite : Calculation}
    {e e' : CalculateError} {items : List Value}
    (h : range = if tooLarge then .error e else .ok (.list items))
    (hopposite : opposite = if tooLarge then .error e' else .ok (.list items.reverse)) :
    (range = .error e ↔ tooLarge) ∧ (¬ tooLarge → range = .ok (.list items)) ∧
      ∀ v, range = .ok v → ∃ items, v = .list items ∧ opposite = .ok (.list items.reverse) := by
  by_cases htoo : tooLarge
  · rw [if_pos htoo] at h
    refine ⟨⟨fun _ => htoo, fun _ => h⟩, absurd htoo, fun v hv => ?_⟩
    cases h.symm.trans hv
  · rw [if_neg htoo] at h hopposite
    refine ⟨⟨fun herror => ?_, fun h => absurd h htoo⟩, fun _ => h, fun v hv => ⟨items, ?_, hopposite⟩⟩
    · cases h.symm.trans herror
    · exact (Except.ok.inj (h.symm.trans hv)).symm

namespace Environment

/-- A range of whole numbers is too large if and only if it counts more elements than the
    settings allow. Otherwise it is the list of the words that count from its first bound
    to its last. A range of characters is too large if it counts more codes than that, and
    otherwise the list of all characters between its bounds. Turning the bounds around turns
    the list around. -/
theorem ranges_exact (env : Environment) (scope : Scope) :
    let max := env.config.maxRangeLength
    (∀ first last : Int64,
      let count := (last.toInt - first.toInt).natAbs + 1
      let value := env.evaluate scope (.intRange first last)
      (value = .error (.rangeTooLarge (toString first.toInt) (toString last.toInt) max) ↔ max < count) ∧
      (¬ max < count → ∃ words, value = .ok (.list (words.map .int)) ∧ Counts first last words) ∧
      ∀ v, value = .ok v → ∃ items, v = .list items ∧
        env.evaluate scope (.intRange last first) = .ok (.list items.reverse)) ∧
    ∀ first last : Char,
      let codes := ((last.toNat : Int) - first.toNat).natAbs + 1
      let value := env.evaluate scope (.charRange first last)
      (value = .error (.rangeTooLarge first.toString last.toString max) ↔ max < codes) ∧
      (¬ max < codes → ∃ chars, value = .ok (.list (chars.map .char)) ∧ Spells first last chars ∧
        chars.length ≤ max) ∧
      ∀ v, value = .ok v → ∃ items, v = .list items ∧
        env.evaluate scope (.charRange last first) = .ok (.list items.reverse) := by
  intro max
  constructor
  · intro first last count value
    have hvalue : value = intRange max first last := by rw [← evaluate]
    have hopposite : env.evaluate scope (.intRange last first) = intRange max last first := by rw [evaluate]
    obtain ⟨htoo, hlist, hturned⟩ := range_outcome (hvalue.trans (intRange_eq max first last))
      (hopposite.trans (intRange_opposite max first last))
    exact ⟨htoo, fun h => ⟨_, hlist h, counts_wordsBetween first last⟩, hturned⟩
  · intro first last codes value
    have hvalue : value = charRange max first last := by rw [← evaluate]
    have hopposite : env.evaluate scope (.charRange last first) = charRange max last first := by rw [evaluate]
    obtain ⟨htoo, hlist, hturned⟩ := range_outcome (hvalue.trans (charRange_eq max first last))
      (hopposite.trans (charRange_opposite max first last))
    refine ⟨htoo, fun h => ⟨_, hlist h, spells_charsBetween first last, ?_⟩, hturned⟩
    exact Nat.le_trans (length_charsBetween_le first last) (Nat.le_of_not_lt h)

/-- From the smallest word to the largest there are more elements than words count, and a
    range ends at the largest without a step past it. -/
theorem ranges_exact_extremes :
    let env : Environment := { config := { maxRangeLength := 2 } }
    let scope : Scope := { caller := [] }
    (∃ e, env.evaluate scope (.intRange Int64.minValue Int64.maxValue) = .error e) ∧
    ∃ words, env.evaluate scope (.intRange (Int64.maxValue - 1) Int64.maxValue) = .ok (.list (words.map .int)) ∧
      Counts (Int64.maxValue - 1) Int64.maxValue words := by
  intro env scope
  obtain ⟨hwords, -⟩ := env.ranges_exact scope
  obtain ⟨htoo, -, -⟩ := hwords Int64.minValue Int64.maxValue
  obtain ⟨-, hlist, -⟩ := hwords (Int64.maxValue - 1) Int64.maxValue
  exact ⟨⟨_, htoo.mpr (by decide)⟩, hlist (by decide)⟩

end Environment

end TemplateEngine
