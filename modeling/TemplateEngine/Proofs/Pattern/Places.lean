/-
  TemplateEngine.Proofs.Pattern.Places — which parts of a text an expression describes.

  `describes` says from where to where, expression by expression. The matcher goes the
  other way round: it takes all places where a match may begin to all where it may end. For
  copies it keeps the places that it has been to. A round of copies either comes to a new
  place or is the last, and a text has only so many places, so that more rounds than
  places are none too few.

  Proved:
  - `reach_iff`: rounds up to a number of them, by the copies that they stand for.
  - `reach_closed`: rounds enough for all places leave none out.
  - `mem_ends_iff`: the places that the matcher comes to are those described.
  - `occursIn_iff`: an expression occurs in a text if it describes a part of it.
-/

import Mathlib.Data.Finset.Card
import Mathlib.Order.Interval.Finset.Nat
import TemplateEngine.Pattern.Match

namespace TemplateEngine.Pattern

/-! ## Parts of a text -/

/-- So many copies, one behind the other. -/
def Copies (part : Nat → Nat → Prop) : Nat → Nat → Nat → Prop
  | 0, i, j => i = j
  | n + 1, i, j => ∃ k, part i k ∧ Copies part n k j

namespace Regex

/-- The expression describes the characters from one place of a text to another. -/
def describes (text : Array Char) : Regex → Nat → Nat → Prop
  | empty, i, j => i = j
  | char s, i, j => j = i + 1 ∧ (text[i]?.any fun c => s.has c.toNat) = true
  | look l, i, j => i = j ∧ l.holds text i = true
  | group r, i, j => describes text r i j
  | seq a b, i, j => ∃ k, describes text a i k ∧ describes text b k j
  | alt a b, i, j => describes text a i j ∨ describes text b i j
  | copies r min max, i, j =>
    ∃ more, (∀ m, max = some m → more ≤ m - min) ∧ Copies (describes text r) (min + more) i j

end Regex

section

variable {part : Nat → Nat → Prop}

theorem copies_add {m n i j : Nat} : Copies part (m + n) i j ↔ ∃ k, Copies part m i k ∧ Copies part n k j := by
  induction m generalizing i with
  | zero => simp [Copies]
  | succ m ih =>
    rw [Nat.succ_add, Copies]
    simp only [ih, Copies]
    constructor
    · rintro ⟨k, hfirst, k', hm, hn⟩
      exact ⟨k', ⟨k, hfirst, hm⟩, hn⟩
    · rintro ⟨k', ⟨k, hfirst, hm⟩, hn⟩
      exact ⟨k, hfirst, k', hm, hn⟩

/-- What a copy keeps, copies keep. -/
theorem Copies.keeps {P : Nat → Prop} (h : ∀ i, P i → ∀ j, part i j → P j) {n i j : Nat} (hi : P i)
    (hcopies : Copies part n i j) : P j := by
  induction n generalizing i with
  | zero => exact hcopies ▸ hi
  | succ n ih =>
    obtain ⟨k, hfirst, hmore⟩ := hcopies
    exact ih (h i hi k hfirst) hmore

/-! ## Rounds of copies -/

/-- From a list of places the step takes each one along by itself. -/
def TakesEach (part : Nat → Nat → Prop) (step : List Nat → List Nat) (size : Nat) : Prop :=
  ∀ places, (∀ i ∈ places, i ≤ size) → ∀ j, j ∈ step places ↔ ∃ i ∈ places, part i j

/-- All places that are seen lie in the text, and only the fresh ones may lead to others. -/
structure Explored (part : Nat → Nat → Prop) (size : Nat) (seen fresh : List Nat) : Prop where
  within : ∀ i ∈ seen, i ≤ size
  fresh_seen : ∀ i ∈ fresh, i ∈ seen
  leads : ∀ i ∈ seen, i ∉ fresh → ∀ j, part i j → j ∈ seen

theorem Explored.start {size : Nat} {places : List Nat} (h : ∀ i ∈ places, i ≤ size) :
    Explored part size places places :=
  ⟨h, fun _ hi => hi, fun _ hi hfresh => absurd hi hfresh⟩

/-- With nothing fresh nothing else is reached. -/
theorem Explored.closed {size : Nat} {seen : List Nat} (h : Explored part size seen []) :
    ∀ i ∈ seen, ∀ j, part i j → j ∈ seen :=
  fun i hi => h.leads i hi List.not_mem_nil

/-- The places of the next round. -/
def newPlaces (step : List Nat → List Nat) (seen fresh : List Nat) : List Nat :=
  (step fresh).filter fun i => !seen.contains i

theorem reach_succ (step : List Nat → List Nat) (n : Nat) (seen fresh : List Nat) :
    reach step (n + 1) seen fresh = if (newPlaces step seen fresh).isEmpty then seen
      else reach step n (seen ++ newPlaces step seen fresh) (newPlaces step seen fresh) := rfl

section

variable {step : List Nat → List Nat} {size : Nat} (hstep : TakesEach part step size)
  (hwithin : ∀ i j, i ≤ size → part i j → j ≤ size) {seen fresh : List Nat}
include hstep

theorem mem_newPlaces_iff (h : Explored part size seen fresh) {j : Nat} :
    j ∈ newPlaces step seen fresh ↔ j ∉ seen ∧ ∃ i ∈ fresh, part i j := by
  simp only [newPlaces, List.mem_filter, hstep fresh fun i hi => h.within i (h.fresh_seen i hi),
    Bool.not_eq_true', List.contains_eq_mem, decide_eq_false_iff_not]
  exact And.comm

include hwithin

theorem Explored.next (h : Explored part size seen fresh) :
    Explored part size (seen ++ newPlaces step seen fresh) (newPlaces step seen fresh) := by
  refine ⟨fun i hi => ?_, fun i hi => List.mem_append_right seen hi, fun i hi hold j hpart => ?_⟩
  · rcases List.mem_append.mp hi with hi | hi
    · exact h.within i hi
    · obtain ⟨-, i', hi', hpart⟩ := (mem_newPlaces_iff hstep h).mp hi
      exact hwithin i' i (h.within i' (h.fresh_seen i' hi')) hpart
  · have hi := (List.mem_append.mp hi).resolve_right hold
    rw [List.mem_append, mem_newPlaces_iff hstep h]
    by_cases hj : j ∈ seen
    · exact .inl hj
    · by_cases hfresh : i ∈ fresh
      · exact .inr ⟨hj, i, hfresh, hpart⟩
      · exact absurd (h.leads i hi hfresh j hpart) hj

/-- The first place on the way that is new is reached one copy later at least. -/
theorem copies_through_new (h : Explored part size seen fresh) {k n i j : Nat} (hk : k ≤ n + 1) (hi : i ∈ seen)
    (hcopies : Copies part k i j) :
    j ∈ seen ∨ ∃ i ∈ newPlaces step seen fresh, ∃ k ≤ n, Copies part k i j := by
  induction k generalizing i with
  | zero => exact .inl (hcopies ▸ hi)
  | succ k ih =>
    obtain ⟨i', hpart, hmore⟩ := hcopies
    have hi' : i' ∈ seen ++ newPlaces step seen fresh := by
      by_cases hnew : i ∈ newPlaces step seen fresh
      · exact absurd hi ((mem_newPlaces_iff hstep h).mp hnew).1
      · exact (h.next hstep hwithin).leads i (List.mem_append_left _ hi) hnew i' hpart
    rcases List.mem_append.mp hi' with hi' | hi'
    · exact ih (Nat.le_of_succ_le hk) hi' hmore
    · exact .inr ⟨i', hi', k, Nat.le_of_succ_le_succ hk, hmore⟩

/-- What is reached in rounds, by the copies that they stand for. -/
theorem reach_iff (n : Nat) (h : Explored part size seen fresh) (j : Nat) :
    j ∈ reach step n seen fresh ↔ j ∈ seen ∨ ∃ i ∈ fresh, ∃ k ≤ n, Copies part k i j := by
  induction n generalizing seen fresh with
  | zero =>
    simp only [reach, Nat.le_zero, exists_eq_left, Copies, exists_eq_right]
    exact ⟨.inl, fun hj => hj.elim id (h.fresh_seen j)⟩
  | succ n ih =>
    have hnext := h.next hstep hwithin
    rw [reach_succ]
    split
    · rename_i hnone
      rw [List.isEmpty_iff.mp hnone, List.append_nil] at hnext
      refine ⟨.inl, fun hj => hj.elim id ?_⟩
      rintro ⟨i, hi, k, -, hcopies⟩
      exact hcopies.keeps hnext.closed (h.fresh_seen i hi)
    · rw [ih hnext]
      constructor
      · rintro (hj | ⟨i, hi, k, hk, hcopies⟩)
        · refine (List.mem_append.mp hj).imp id fun hj => ?_
          obtain ⟨-, i, hi, hpart⟩ := (mem_newPlaces_iff hstep h).mp hj
          exact ⟨i, hi, 1, Nat.succ_le_succ (Nat.zero_le n), j, hpart, rfl⟩
        · obtain ⟨-, i', hi', hpart⟩ := (mem_newPlaces_iff hstep h).mp hi
          exact .inr ⟨i', hi', k + 1, Nat.succ_le_succ hk, i, hpart, hcopies⟩
      · rintro (hj | ⟨i, hi, k, hk, hcopies⟩)
        · exact .inl (List.mem_append_left _ hj)
        · exact (copies_through_new hstep hwithin h hk (h.fresh_seen i hi) hcopies).imp (List.mem_append_left _) id

/-- Every round but the last comes to a place that has not been seen. -/
theorem reach_closed (n : Nat) (h : Explored part size seen fresh) (hn : size + 1 ≤ seen.toFinset.card + n) :
    ∀ i ∈ reach step n seen fresh, ∀ j, part i j → j ∈ reach step n seen fresh := by
  induction n generalizing seen fresh with
  | zero =>
    intro i hi j hpart
    have hsub : seen.toFinset ⊆ Finset.range (size + 1) := fun k hk =>
      Finset.mem_range.mpr (Nat.lt_succ_of_le (h.within k (List.mem_toFinset.mp hk)))
    have hall := Finset.eq_of_subset_of_card_le hsub (by rw [Finset.card_range]; exact hn)
    have hj := hwithin i j (h.within i hi) hpart
    rw [reach, ← List.mem_toFinset, hall]
    exact Finset.mem_range.mpr (Nat.lt_succ_of_le hj)
  | succ n ih =>
    have hnext := h.next hstep hwithin
    rw [reach_succ]
    split
    · rename_i hnone
      rw [List.isEmpty_iff.mp hnone, List.append_nil] at hnext
      exact hnext.closed
    · rename_i hsome
      obtain ⟨k, hk⟩ := List.exists_mem_of_ne_nil _ (mt List.isEmpty_iff.mpr hsome)
      have hcard : seen.toFinset.card < (seen ++ newPlaces step seen fresh).toFinset.card := by
        refine Finset.card_lt_card ⟨fun i hi => ?_, fun hsub => ((mem_newPlaces_iff hstep h).mp hk).1 ?_⟩
        · exact List.mem_toFinset.mpr (List.mem_append_left _ (List.mem_toFinset.mp hi))
        · exact List.mem_toFinset.mp (hsub (List.mem_toFinset.mpr (List.mem_append_right seen hk)))
      exact ih hnext (by omega)

theorem mem_stepTimes_iff (n : Nat) {places : List Nat} (hplaces : ∀ i ∈ places, i ≤ size) (j : Nat) :
    j ∈ stepTimes step n places ↔ ∃ i ∈ places, Copies part n i j := by
  induction n generalizing places with
  | zero => simp [stepTimes, Copies]
  | succ n ih =>
    rw [stepTimes]
    split
    · rename_i hnone
      simp [List.isEmpty_iff.mp hnone]
    · have hnext : ∀ k ∈ step places, k ≤ size := fun k hk => by
        obtain ⟨i, hi, hpart⟩ := (hstep places hplaces k).mp hk
        exact hwithin i k (hplaces i hi) hpart
      rw [ih hnext]
      simp only [hstep places hplaces, Copies]
      constructor
      · rintro ⟨k, ⟨i, hi, hpart⟩, hmore⟩
        exact ⟨i, hi, k, hpart, hmore⟩
      · rintro ⟨i, hi, k, hpart, hmore⟩
        exact ⟨k, ⟨i, hi, hpart⟩, hmore⟩

/-- Copies up to a number, or as many as there are. -/
theorem mem_reach_iff (max : Option Nat) (min : Nat) {places : List Nat} (hplaces : ∀ i ∈ places, i ≤ size)
    (j : Nat) :
    j ∈ reach step ((max.map (· - min)).getD (size + 1)) places places ↔
      ∃ i ∈ places, ∃ more, (∀ m, max = some m → more ≤ m - min) ∧ Copies part more i j := by
  have hstart : Explored part size places places := .start hplaces
  cases max with
  | some m =>
    rw [reach_iff hstep hwithin _ hstart]
    constructor
    · rintro (hj | ⟨i, hi, k, hk, hcopies⟩)
      · exact ⟨j, hj, 0, fun _ _ => Nat.zero_le _, rfl⟩
      · exact ⟨i, hi, k, fun m' hm => Option.some.inj hm ▸ hk, hcopies⟩
    · rintro ⟨i, hi, k, hk, hcopies⟩
      exact .inr ⟨i, hi, k, hk m rfl, hcopies⟩
  | none =>
    constructor
    · intro hj
      rcases (reach_iff hstep hwithin _ hstart j).mp hj with hj | ⟨i, hi, k, -, hcopies⟩
      · exact ⟨j, hj, 0, fun _ hm => absurd hm (by simp), rfl⟩
      · exact ⟨i, hi, k, fun _ hm => absurd hm (by simp), hcopies⟩
    · rintro ⟨i, hi, k, -, hcopies⟩
      have hclosed := reach_closed hstep hwithin (size + 1) hstart (Nat.le_add_left ..)
      exact hcopies.keeps hclosed ((reach_iff hstep hwithin _ hstart i).mpr (.inl hi))

end

end

/-! ## What the matcher comes to -/

namespace Regex

variable {text : Array Char}

theorem describes_within (r : Regex) (i j : Nat) (hi : i ≤ text.size) (h : r.describes text i j) :
    j ≤ text.size := by
  induction r generalizing i j with
  | empty => exact h ▸ hi
  | char s =>
    obtain ⟨rfl, hhas⟩ := h
    rcases Nat.lt_or_ge i text.size with hlt | hge
    · exact hlt
    · rw [Array.getElem?_eq_none hge] at hhas
      cases hhas
  | look l => exact h.1 ▸ hi
  | group r ih => exact ih i j hi h
  | seq a b iha ihb =>
    obtain ⟨k, ha, hb⟩ := h
    exact ihb k j (iha i k hi ha) hb
  | alt a b iha ihb => exact h.elim (iha i j hi) (ihb i j hi)
  | copies r min max ih =>
    obtain ⟨more, -, hcopies⟩ := h
    exact hcopies.keeps (fun k hk l => ih k l hk) hi

theorem mem_join_iff {a b : List Nat} {j : Nat} : j ∈ join a b ↔ j ∈ a ∨ j ∈ b := by
  simp only [join, List.mem_append, List.mem_filter, Bool.not_eq_true', List.contains_eq_mem,
    decide_eq_false_iff_not]
  by_cases h : j ∈ a <;> simp [h]

/-- From places of a text the matcher comes to the ends of the parts that begin there. -/
theorem mem_ends_iff (r : Regex) : TakesEach (r.describes text) (r.ends text) text.size := by
  induction r with
  | empty => simp [TakesEach, ends, describes]
  | char s =>
    intro places _ j
    simp only [ends, List.mem_filterMap, describes]
    constructor
    · rintro ⟨i, hi, hj⟩
      split at hj
      · rename_i hhas
        exact ⟨i, hi, (Option.some.inj hj).symm, hhas⟩
      · cases hj
    · rintro ⟨i, hi, rfl, hhas⟩
      exact ⟨i, hi, if_pos hhas⟩
  | look l =>
    intro places _ j
    simp only [ends, List.mem_filter, describes]
    constructor
    · exact fun ⟨hj, hholds⟩ => ⟨j, hj, rfl, hholds⟩
    · rintro ⟨_, hi, rfl, hholds⟩
      exact ⟨hi, hholds⟩
  | group r ih => exact ih
  | seq a b iha ihb =>
    intro places hplaces j
    have hmiddle : ∀ k ∈ ends text a places, k ≤ text.size := fun k hk => by
      obtain ⟨i, hi, ha⟩ := (iha places hplaces k).mp hk
      exact a.describes_within i k (hplaces i hi) ha
    simp only [ends, ihb _ hmiddle, iha places hplaces, describes]
    constructor
    · rintro ⟨k, ⟨i, hi, ha⟩, hb⟩
      exact ⟨i, hi, k, ha, hb⟩
    · rintro ⟨i, hi, k, ha, hb⟩
      exact ⟨k, ⟨i, hi, ha⟩, hb⟩
  | alt a b iha ihb =>
    intro places hplaces j
    simp only [ends, mem_join_iff, iha places hplaces, ihb places hplaces, describes, and_or_left, exists_or]
  | copies r min max ih =>
    intro places hplaces j
    have hwithin : ∀ i j, i ≤ text.size → r.describes text i j → j ≤ text.size := r.describes_within
    have hfirst := mem_stepTimes_iff ih hwithin min hplaces
    have hplaces' : ∀ k ∈ stepTimes (fun ps => ends text r ps) min places, k ≤ text.size := fun k hk => by
      obtain ⟨i, hi, hcopies⟩ := (hfirst k).mp hk
      exact hcopies.keeps (fun k hk l => hwithin k l hk) (hplaces i hi)
    simp only [ends, mem_reach_iff ih hwithin max min hplaces', hfirst, describes, copies_add]
    constructor
    · rintro ⟨k, ⟨i, hi, hmin⟩, more, hmore, hcopies⟩
      exact ⟨i, hi, more, hmore, k, hmin, hcopies⟩
    · rintro ⟨i, hi, more, hmore, k, hmin, hcopies⟩
      exact ⟨k, ⟨i, hi, hmin⟩, more, hmore, hcopies⟩

theorem occursIn_iff (r : Regex) (text : String) :
    r.occursIn text = true ↔ ∃ i j, i ≤ text.toList.length ∧ r.describes text.toList.toArray i j := by
  have hplaces : ∀ i ∈ List.range (text.toList.toArray.size + 1), i ≤ text.toList.toArray.size := fun i hi =>
    Nat.le_of_lt_succ (List.mem_range.mp hi)
  simp only [occursIn, Bool.not_eq_true', List.isEmpty_eq_false_iff_exists_mem]
  constructor
  · rintro ⟨j, hj⟩
    obtain ⟨i, hi, h⟩ := (mem_ends_iff r _ hplaces j).mp hj
    exact ⟨i, j, hplaces i hi, h⟩
  · rintro ⟨i, j, hi, h⟩
    exact ⟨j, (mem_ends_iff r _ hplaces j).mpr ⟨i, List.mem_range.mpr (Nat.lt_succ_of_le hi), h⟩⟩

end Regex

end TemplateEngine.Pattern
