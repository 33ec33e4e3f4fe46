/-
  TemplateEngine.Proofs.Function.Sorting — sorted lists, by numbers and by texts.

  A list is sorted by keys, and items with one key stay as they came: that is all there is
  to a stable sort (`StablySorted`). Whole numbers are sorted by their doubles. They come
  out in ascending order as long as no two of them that make one double came in the other
  order, and so whenever they are doubles themselves. A list that holds anything else is
  sorted by the texts of its items, of which many values may have the same.

  Proved:
  - `stablySorted_mergeSort`: sorting by keys is a stable sort.
  - `StablySorted.pairwise_iff`: when the items themselves are in order.
  - `sort_ascending_iff`: when sorted whole numbers ascend.
  - `sort_by_texts`: all lists that do not only hold numbers.
-/

import Mathlib.Data.List.Chain
import Mathlib.Order.Defs.LinearOrder
import TemplateEngine.Function.Builtin
import TemplateEngine.Proofs.Double.Rounding
import TemplateEngine.Proofs.Operator.Comparison

namespace TemplateEngine

/-! ## Stable sorts -/

section Stable

variable {α κ : Type} [LinearOrder κ]

/-- The same items in the order of their keys; those with one key in the order in which they
    came. -/
structure StablySorted (key : α → κ) (items sorted : List α) : Prop where
  perm : sorted.Perm items
  ordered : sorted.Pairwise fun a b => key a ≤ key b
  stable : ∀ k, sorted.filter (key · = k) = items.filter (key · = k)

theorem stablySorted_mergeSort (key : α → κ) (items : List α) :
    StablySorted key items (items.mergeSort fun a b => decide (key a ≤ key b)) := by
  have htrans (a b c : α) (hab : decide (key a ≤ key b) = true) (hbc : decide (key b ≤ key c) = true) :
      decide (key a ≤ key c) = true :=
    decide_eq_true (le_trans (of_decide_eq_true hab) (of_decide_eq_true hbc))
  have htotal (a b : α) : (decide (key a ≤ key b) || decide (key b ≤ key a)) = true := by
    simpa using le_total (key a) (key b)
  have hperm := List.mergeSort_perm items fun a b => decide (key a ≤ key b)
  refine ⟨hperm, ?_, fun k => ?_⟩
  · exact (List.pairwise_mergeSort htrans htotal items).imp of_decide_eq_true
  · -- the items with one key are in order, so sorting keeps them as a sublist
    have hone : (items.filter (key · = k)).Pairwise fun a b => decide (key a ≤ key b) = true := by
      rw [List.pairwise_filter]
      refine List.pairwise_of_forall fun a b ha hb => ?_
      exact decide_eq_true (le_of_eq ((of_decide_eq_true ha).trans (of_decide_eq_true hb).symm))
    have hsub := (List.sublist_mergeSort htrans htotal hone List.filter_sublist).filter (key · = k)
    rw [List.filter_filter] at hsub
    simp only [Bool.and_self] at hsub
    exact (hsub.eq_of_length (hperm.filter _).length_eq.symm).symm

theorem pairwise_of_filter_iff (key : α → κ) {R : α → α → Prop} (l : List α) :
    (∀ k, (l.filter (key · = k)).Pairwise R) ↔ l.Pairwise fun a b => key a = key b → R a b := by
  simp only [List.pairwise_filter, decide_eq_true_eq]
  constructor
  · intro h
    rw [List.pairwise_iff_forall_sublist]
    intro a b hab hkey
    exact List.pairwise_iff_forall_sublist.mp (h (key b)) hab hkey rfl
  · intro h k
    exact h.imp fun hR ha hb => hR (ha.trans hb.symm)

/-- Where a smaller key makes a smaller item, only items with one key can be out of order,
    and they are if they came so. -/
theorem StablySorted.pairwise_iff {key : α → κ} {items sorted : List α} (h : StablySorted key items sorted)
    {R : α → α → Prop} (hR : ∀ a b, key a < key b → R a b) :
    sorted.Pairwise R ↔ items.Pairwise fun a b => key a = key b → R a b := by
  rw [← pairwise_of_filter_iff]
  simp only [← h.stable]
  rw [pairwise_of_filter_iff]
  constructor
  · intro hsorted
    refine hsorted.imp ?_
    intro a b hab _
    exact hab
  · intro hone
    refine h.ordered.imp₂ (fun a b hle hone => ?_) hone
    rcases lt_or_eq_of_le hle with hlt | heq
    · exact hR a b hlt
    · exact hone heq

end Stable

/-! ## Whole numbers -/

open Operator (lessOrEqual)

/-- Where a whole number is put: at the place of its double. -/
def doubleRank (n : Int64) : Int := (Double.ofInt n.toInt).totalRank

theorem doubleRank_eq_iff {a b : Int64} :
    doubleRank a = doubleRank b ↔ Double.ofInt a.toInt = Double.ofInt b.toInt :=
  ⟨Double.totalRank_inj, congrArg Double.totalRank⟩

theorem lt_of_doubleRank_lt {a b : Int64} (h : doubleRank a < doubleRank b) : a.toInt < b.toInt := by
  by_cases hle : b.toInt ≤ a.toInt
  · have := Double.totalRank_ofInt_mono hle
    unfold doubleRank at h
    omega
  · omega

theorem sortItems_wholes (ns : List Int64) :
    Function.sortItems (ns.map .int) =
      (ns.mergeSort fun a b => decide (doubleRank a ≤ doubleRank b)).map .int := by
  have hnumbers : (ns.map Value.int).all Value.isNumber = true := by simp [Value.isNumber]
  rw [Function.sortItems, if_pos hnumbers]
  exact (List.map_mergeSort (f := Value.int) fun _ _ _ _ => rfl).symm

theorem holds_lessOrEqual_iff {patterns : Operator.Patterns} (a b : Int64) :
    lessOrEqual.Holds patterns (.int a) (.int b) ↔ a.toInt ≤ b.toInt := by
  rw [Operator.holds_iff (by decide) (.wholes a b)]
  show (compare a.toInt b.toInt).isLE = true ↔ _
  rw [Int.isLE_compare]

theorem ascending_iff_pairwise (patterns : Operator.Patterns) (ns : List Int64) :
    (ns.IsChain fun a b => lessOrEqual.Holds patterns (.int a) (.int b)) ↔
      ns.Pairwise fun a b => a.toInt ≤ b.toInt := by
  simp only [holds_lessOrEqual_iff]
  have : IsTrans Int64 fun a b => a.toInt ≤ b.toInt := ⟨fun _ _ _ => Int.le_trans⟩
  exact List.isChain_iff_pairwise

/-- Sorting whole numbers is a stable sort by their doubles. The result ascends if and only
    if numbers that make one double came in ascending order, and so if none of them is
    larger than `2^53`. -/
theorem sort_ascending_iff (patterns : Operator.Patterns) (ns : List Int64) :
    ∃ sorted : List Int64, Function.sort [.list (ns.map .int)] = .ok (.list (sorted.map .int)) ∧
      StablySorted doubleRank ns sorted ∧
      ((sorted.IsChain fun a b => lessOrEqual.Holds patterns (.int a) (.int b)) ↔
        ns.Pairwise fun a b => Double.ofInt a.toInt = Double.ofInt b.toInt → a.toInt ≤ b.toInt) ∧
      ((∀ n ∈ ns, n.toInt.natAbs ≤ Double.exactBound) →
        sorted.IsChain fun a b => lessOrEqual.Holds patterns (.int a) (.int b)) := by
  have hstable := stablySorted_mergeSort doubleRank ns
  have hascending := hstable.pairwise_iff fun a b h => Int.le_of_lt (lt_of_doubleRank_lt h)
  simp only [doubleRank_eq_iff] at hascending
  rw [← ascending_iff_pairwise] at hascending
  refine ⟨_, ?_, hstable, hascending, fun hexact => hascending.mpr ?_⟩
  · show Except.ok (Value.list (Function.sortItems (ns.map .int))) = _
    rw [sortItems_wholes]
  · refine List.pairwise_of_forall_mem_list fun a ha b hb hdouble => ?_
    exact Int.le_of_eq (Double.ofInt_inj (hexact a ha) (hexact b hb) hdouble)

/-- Two of the numbers are as far from zero as numbers may be. -/
theorem sort_ascending_exact :
    let ns : List Int64 := [9007199254740992, 5, -9007199254740992, -9007199254740991]
    (∀ n ∈ ns, n.toInt.natAbs ≤ Double.exactBound) ∧
      ∃ sorted : List Int64, Function.sort [.list (ns.map .int)] = .ok (.list (sorted.map .int)) ∧
        sorted.IsChain fun a b => lessOrEqual.Holds Pattern.compile (.int a) (.int b) := by
  intro ns
  have hexact : ∀ n ∈ ns, n.toInt.natAbs ≤ Double.exactBound := by
    simp only [ns, List.forall_mem_cons]
    exact ⟨by decide, by decide, by decide, by decide, nofun⟩
  obtain ⟨sorted, hsort, -, -, hascending⟩ := sort_ascending_iff Pattern.compile ns
  exact ⟨hexact, sorted, hsort, hascending hexact⟩

/-- Behind `2^53` a number and the one after it make one double, and stay in descending
    order. -/
theorem sort_keeps_descending :
    Function.sort [.list [.int 9007199254740993, .int 9007199254740992]] =
      .ok (.list [.int 9007199254740993, .int 9007199254740992]) ∧
    ¬ lessOrEqual.Holds Pattern.compile (.int 9007199254740993) (.int 9007199254740992) := by
  refine ⟨?_, ?_⟩
  · show Except.ok (Value.list (Function.sortItems ([9007199254740993, 9007199254740992].map .int))) = _
    rw [sortItems_wholes, List.mergeSort_of_pairwise]
    · rfl
    · decide +kernel
  · rw [holds_lessOrEqual_iff]
    decide

/-! ## Texts -/

theorem sortItems_texts {items : List Value} (h : ∃ v ∈ items, v.isNumber = false) :
    Function.sortItems items = items.mergeSort fun a b => decide (a.text ≤ b.text) := by
  have hnumbers : ¬ items.all Value.isNumber = true := by simpa using h
  rw [Function.sortItems, if_neg hnumbers]

theorem holds_lessOrEqual_texts {patterns : Operator.Patterns} {a b : Value} (ha : a.isText = true)
    (hb : b.isText = true) : lessOrEqual.Holds patterns a b ↔ a.text ≤ b.text := by
  rw [Operator.holds_iff (by decide) (.texts ha hb), Value.order_texts ha]
  show (compare a.text b.text).isLE = true ↔ _
  rw [Ordering.isLE_iff_ne_gt]
  exact compare_le_iff_le

/-- A list that does not only hold numbers is sorted by the texts of its items, in the order
    of their bytes, and items of one text stay as they came. Sorting it once more changes
    nothing, and texts ascend. -/
theorem sort_by_texts (patterns : Operator.Patterns) {items : List Value} (h : ∃ v ∈ items, v.isNumber = false) :
    ∃ sorted : List Value, Function.sort [.list items] = .ok (.list sorted) ∧
      StablySorted Value.text items sorted ∧
      (sorted.Pairwise fun a b => a.text.toUTF8.data.toList ≤ b.text.toUTF8.data.toList) ∧
      Function.sort [.list sorted] = .ok (.list sorted) ∧
      ((∀ v ∈ items, v.isText = true) → sorted.IsChain fun a b => lessOrEqual.Holds patterns a b) := by
  have hsort {vs : List Value} (hvs : ∃ v ∈ vs, v.isNumber = false) :
      Function.sort [.list vs] = .ok (.list (vs.mergeSort fun a b => decide (a.text ≤ b.text))) :=
    congrArg (fun sorted => Except.ok (Value.list sorted)) (sortItems_texts hvs)
  have hstable := stablySorted_mergeSort Value.text items
  have hmem (v : Value) : v ∈ _ ↔ v ∈ items := hstable.perm.mem_iff
  refine ⟨_, hsort h, hstable, ?_, ?_, fun htexts => ?_⟩
  · exact hstable.ordered.imp fun hle => (Json.keyBytes_le_iff _ _).mp hle
  · rw [hsort (by simpa only [hmem] using h), List.mergeSort_of_pairwise]
    exact hstable.ordered.imp decide_eq_true
  · refine (hstable.ordered.imp_of_mem fun {a b} ha hb hle => ?_).isChain
    exact (holds_lessOrEqual_texts (htexts a ((hmem a).mp ha)) (htexts b ((hmem b).mp hb))).mpr hle

/-- Five items of two texts, and two texts of which one has another kind. -/
theorem sort_by_texts_alike :
    let mixed : List Value := [.string "1", .int 1, .null, .char '1', .string ""]
    let letters : List Value := [.string "é", .char 'z']
    ((∃ v ∈ mixed, v.isNumber = false) ∧ (∃ v ∈ letters, v.isNumber = false) ∧ ∀ v ∈ letters, v.isText = true) ∧
    (∃ sorted, Function.sort [.list mixed] = .ok (.list sorted) ∧
      sorted.filter (·.text = "") = [.null, .string ""] ∧
      sorted.filter (·.text = "1") = [.string "1", .int 1, .char '1'] ∧
      Function.sort [.list sorted] = .ok (.list sorted)) ∧
    ∃ sorted, Function.sort [.list letters] = .ok (.list sorted) ∧
      sorted.IsChain fun a b => lessOrEqual.Holds Pattern.compile a b := by
  intro mixed letters
  have hmixed : ∃ v ∈ mixed, v.isNumber = false := ⟨.null, by simp [mixed], rfl⟩
  have hletters : ∃ v ∈ letters, v.isNumber = false := ⟨.char 'z', by simp [letters], rfl⟩
  have htexts : ∀ v ∈ letters, v.isText = true := by simp [letters, Value.isText]
  obtain ⟨sorted, hsort, hstable, -, hagain, -⟩ := sort_by_texts Pattern.compile hmixed
  obtain ⟨sorted', hsort', -, -, -, hascending⟩ := sort_by_texts Pattern.compile hletters
  refine ⟨⟨hmixed, hletters, htexts⟩, ⟨sorted, hsort, ?_, ?_, hagain⟩, sorted', hsort', hascending htexts⟩
  · rw [hstable.stable ""]
    rfl
  · rw [hstable.stable "1"]
    rfl

end TemplateEngine
