/-
  TemplateEngine.Proofs.Value.Containers — when lists are equal, and when maps are.

  Lists are equal item by item. Maps are the same entry by entry, in any order, and being
  the same is more than being equal: values that are equal are the same if they are also
  `Alike`, of one kind throughout, so that no number is taken for one of the other kind and
  no character for a string.

  Proved:
  - `same_list_iff`, `same_map_iff`, `equals_list_iff`: containers by what they hold.
  - `same_iff`: the same values are those that are equal and alike.
  - `containers_equal_iff`: what equality asks of the items of lists and of the entries of
    maps.
  - `not_equals_of_number`: a map is not equal to one that has the same number of the other
    kind under the same key, while lists of the two are equal.
-/

import Mathlib.Data.List.Forall2
import Mathlib.Data.List.Perm.Subperm
import TemplateEngine.Proofs.Table
import TemplateEngine.Proofs.Value.Parts
import TemplateEngine.Value.Equality

namespace TemplateEngine.Value

/-! ## Containers by what they hold -/

theorem same_list_iff {as bs : List Value} :
    (list as).same (list bs) = true ↔ List.Forall₂ (fun v w => v.same w = true) as bs := by
  rw [same]
  induction as generalizing bs with
  | nil => cases bs <;> simp [sameItems]
  | cons v as ih => cases bs <;> simp [sameItems, ih]

theorem equals_list_iff {as bs : List Value} :
    (list as).equals (list bs) = true ↔ List.Forall₂ (fun v w => v.equals w = true) as bs := by
  rw [equals]
  induction as generalizing bs with
  | nil => cases bs <;> simp [equalItems]
  | cons v as ih => cases bs <;> simp [equalItems, ih]

theorem sameEntries_iff {t u : Table Value} :
    sameEntries t u = true ↔ ∀ e ∈ t, ∃ w, u.get? e.1 = some w ∧ e.2.same w = true := by
  induction t with
  | nil => simp [sameEntries]
  | cons e t ih =>
    obtain ⟨key, v⟩ := e
    rw [sameEntries, Bool.and_eq_true, ih, List.forall_mem_cons]
    cases u.get? key <;> simp

theorem same_map_iff {t u : Table Value} (ht : t.keys.Nodup) (hu : u.keys.Nodup) :
    (map t).same (map u) = true ↔ Table.Matched (fun v w => v.same w = true) t u := by
  rw [same, Bool.and_eq_true, beq_iff_eq, sameEntries_iff]
  constructor
  · rintro ⟨hlength, hentries⟩
    have hsubset : t.keys ⊆ u.keys := by
      intro key hkey
      obtain ⟨e, he, rfl⟩ := List.mem_map.mp hkey
      obtain ⟨w, hw, -⟩ := hentries e he
      exact Table.mem_keys_iff.mpr ⟨w, hw⟩
    -- as many keys, each of them in the other table
    have hperm := (ht.subperm hsubset).perm_of_length_le (by simp [Table.keys, hlength])
    refine ⟨fun key => hperm.mem_iff, fun {key v w} hv hw => ?_⟩
    obtain ⟨w', hw', hsame⟩ := hentries (key, v) (Table.mem_of_get? hv)
    obtain rfl : w' = w := Option.some.inj (hw'.symm.trans hw)
    exact hsame
  · intro h
    refine ⟨h.length_eq ht hu, fun e he => ?_⟩
    have hv := (Table.get?_eq_some_iff ht).mpr he
    obtain ⟨w, hw⟩ := Table.mem_keys_iff.mp ((h.keys e.1).mp (Table.mem_keys_iff.mpr ⟨_, hv⟩))
    exact ⟨w, hw, h.values hv hw⟩

/-! ## Equal and the same -/

/-- Of one kind, and item by item inside lists. -/
inductive Alike : Value → Value → Prop
  | list {as bs : List Value} : List.Forall₂ Alike as bs → Alike (list as) (list bs)
  | kind {v w : Value} : (∀ items, v ≠ .list items) → v.kindName = w.kindName → Alike v w

theorem alike_list_iff {as bs : List Value} : Alike (list as) (list bs) ↔ List.Forall₂ Alike as bs := by
  constructor
  · intro h
    cases h with
    | list h => exact h
    | kind h _ => exact absurd rfl (h as)
  · exact .list

theorem alike_iff_of_ne_list {v w : Value} (h : ∀ items, v ≠ list items) :
    Alike v w ↔ v.kindName = w.kindName := by
  constructor
  · intro halike
    cases halike with
    | list => exact absurd rfl (h _)
    | kind _ hkind => exact hkind
  · exact .kind h

theorem forall₂_same_iff {as bs : List Value}
    (h : ∀ v ∈ as, ∀ w, v.same w = true ↔ v.equals w = true ∧ Alike v w) :
    List.Forall₂ (fun v w => v.same w = true) as bs ↔
      List.Forall₂ (fun v w => v.equals w = true) as bs ∧ List.Forall₂ Alike as bs := by
  induction as generalizing bs with
  | nil => cases bs <;> simp
  | cons v as ih =>
    rw [List.forall_mem_cons] at h
    cases bs with
    | nil => simp
    | cons w bs =>
      simp only [List.forall₂_cons, h.1 w, ih h.2]
      exact and_and_and_comm

/-- Values are the same if they are equal and no coercion had to make them so. -/
theorem same_iff {v w : Value} : v.same w = true ↔ v.equals w = true ∧ Alike v w := by
  induction v using value_induction generalizing w with
  | step v ih =>
    by_cases hv : ∃ items, v = list items
    · obtain ⟨as, rfl⟩ := hv
      cases w with
      | list bs =>
        rw [same_list_iff, equals_list_iff, alike_list_iff]
        exact forall₂_same_iff fun v hv w => ih v hv
      | _ => simp [same, equals]
    · have hv : ∀ items, v ≠ list items := fun items h => hv ⟨items, h⟩
      rw [alike_iff_of_ne_list hv]
      cases v with
      | list items => exact absurd rfl (hv items)
      | _ => cases w <;> simp [same, equals, kindName, toDouble?]

/-! ## Equality of containers -/

theorem equals_map_iff {t u : Table Value} (ht : t.keys.Nodup) (hu : u.keys.Nodup) :
    (map t).equals (map u) = true ↔ Table.Matched (fun v w => v.equals w = true ∧ Alike v w) t u := by
  have hstrict : (map t).equals (map u) = (map t).same (map u) := rfl
  rw [hstrict, same_map_iff ht hu]
  exact ⟨fun h => h.mono fun _ _ => same_iff.mp, fun h => h.mono fun _ _ => same_iff.mpr⟩

theorem equals_set {as bs : List Value} (h : (list as).equals (list bs) = true) (i : Nat) {v w : Value}
    (hvw : v.equals w = true) : (list (as.set i v)).equals (list (bs.set i w)) = true := by
  rw [equals_list_iff] at h ⊢
  induction h generalizing i with
  | nil => exact .nil
  | cons hitem hrest ih =>
    cases i with
    | zero => exact .cons hvw hrest
    | succ i => exact .cons hitem (ih i)

theorem equals_put_iff {t u : Table Value} (ht : t.keys.Nodup) (hu : u.keys.Nodup)
    (h : (map t).equals (map u) = true) (key : String) (v w : Value) :
    (map (t.put key v)).equals (map (u.put key w)) = true ↔ v.equals w = true ∧ Alike v w := by
  rw [equals_map_iff ht hu] at h
  rw [equals_map_iff (Table.nodup_keys_put ht key v) (Table.nodup_keys_put hu key w)]
  exact Table.matched_put_iff h key v w

/-- Lists are equal exactly if their items are, one by one, and so they stay equal when
    equal values are put in one place of both. Maps are equal exactly if they have the same
    keys, and under each key equal values that are also alike; a pair that is not keeps maps
    apart that are equal otherwise. What the items and the entries hold may be containers
    again. -/
theorem containers_equal_iff (as bs : List Value) {t u : Table Value} (ht : t.keys.Nodup) (hu : u.keys.Nodup) :
    ((list as).equals (list bs) = true ↔ List.Forall₂ (fun v w => v.equals w = true) as bs) ∧
    (∀ (i : Nat) (v w : Value), (list as).equals (list bs) = true → v.equals w = true →
      (list (as.set i v)).equals (list (bs.set i w)) = true) ∧
    ((map t).equals (map u) = true ↔
      Table.Matched (fun v w => v.equals w = true ∧ Alike v w) t u) ∧
    ∀ (key : String) (v w : Value), (map t).equals (map u) = true →
      ((map (t.put key v)).equals (map (u.put key w)) = true ↔ v.equals w = true ∧ Alike v w) :=
  ⟨equals_list_iff, fun i _ _ h hvw => equals_set h i hvw, equals_map_iff ht hu,
    fun key v w h => equals_put_iff ht hu h key v w⟩

/-- The entries stand in another order, and lists are put under one more key. They are equal,
    but the character in one is not alike to the string in its place. -/
theorem containers_equal_iff_put :
    let t : Table Value := [("a", .int 1), ("b", .null)]
    let u : Table Value := [("b", .null), ("a", .int 1)]
    let as : List Value := [.int 1, .char 'x']
    let bs : List Value := [.int 1, .string "x"]
    t.keys.Nodup ∧ u.keys.Nodup ∧ (map t).equals (map u) = true ∧ (list as).equals (list bs) = true ∧
      (map (t.put "c" (list as))).equals (map (u.put "c" (list as))) = true ∧
      (map (t.put "c" (list as))).equals (map (u.put "c" (list bs))) ≠ true := by
  intro t u as bs
  have ht : t.keys.Nodup := by decide
  have hu : u.keys.Nodup := by decide
  have htu : (map t).equals (map u) = true := by decide
  obtain ⟨hlist, -, -, hput⟩ := containers_equal_iff as bs ht hu
  have hlists : (list as).equals (list bs) = true := hlist.mpr (.cons (by decide) (.cons (by decide) .nil))
  have halike : Alike (list as) (list as) := .list (.cons (.kind nofun rfl) (.cons (.kind nofun rfl) .nil))
  have hapart : ¬ Alike (list as) (list bs) := by
    intro h
    have hitems := alike_list_iff.mp h
    simp only [as, bs, List.forall₂_cons] at hitems
    exact absurd ((alike_iff_of_ne_list (v := .char 'x') nofun).mp hitems.2.1) (by decide)
  exact ⟨ht, hu, htu, hlists, (hput "c" _ _ htu).mpr ⟨by decide, halike⟩,
    fun h => hapart ((hput "c" _ _ htu).mp h).2⟩

/-- Under the same key stand a whole number and its double, which are equal, as are the
    lists that hold them. The maps are not. -/
theorem not_equals_of_number :
    let one : Value := .float (Double.ofInt 1)
    Table.Matched (fun v w : Value => v.equals w = true) [("a", .int 1)] [("a", one)] ∧
      (list [.int 1]).equals (list [one]) = true ∧
      (map [("a", .int 1)]).equals (map [("a", one)]) = false := by
  intro one
  have hone : (int 1).equals one = true := by decide +kernel
  refine ⟨⟨fun key => Iff.rfl, fun hv hw => ?_⟩, equals_list_iff.mpr (.cons hone .nil), by decide +kernel⟩
  have hv := Table.mem_of_get? hv
  have hw := Table.mem_of_get? hw
  simp only [List.mem_singleton, Prod.mk.injEq] at hv hw
  rw [hv.2, hw.2]
  exact hone

end TemplateEngine.Value
