/-
  TemplateEngine.Proofs.Table — a table as what stands under its keys.

  Where no key stands twice, looking up a key finds every entry, and the order of the
  entries no longer matters: two tables go together (`Matched`) if they have the same keys
  and what stands under a key goes together.

  Proved:
  - `mem_keys_iff`, `get?_eq_some_iff`: keys and entries by looking up.
  - `Matched.length_eq`: tables that go together are of one length.
  - `matched_put_iff`: when they still do, once something is put under one key of both.
  - `keys_ofEntries`, `get?_ofEntries`: entries that came in one after the other left each key
    once, where it first came in, with what last came in under it.
-/

import Mathlib.Data.List.Basic
import Mathlib.Data.List.Induction
import TemplateEngine.Table

namespace TemplateEngine.Table

variable {α β : Type}

theorem mem_keys_iff {t : Table α} {key : String} : key ∈ t.keys ↔ ∃ value, t.get? key = some value := by
  induction t with
  | nil => simp [keys, get?]
  | cons e t ih =>
    obtain ⟨k, v⟩ := e
    by_cases h : k = key
    · simp [keys, get?, h]
    · simp only [keys, get?, h, if_false] at ih ⊢
      simp [ih, Ne.symm h]

theorem mem_of_get? {t : Table α} {key : String} {value : α} (h : t.get? key = some value) : (key, value) ∈ t := by
  induction t with
  | nil => cases h
  | cons e t ih =>
    obtain ⟨k, v⟩ := e
    rw [get?] at h
    split at h
    · rename_i hkey
      rw [hkey, Option.some.inj h]
      exact List.mem_cons_self ..
    · exact List.mem_cons_of_mem _ (ih h)

theorem get?_eq_some_iff {t : Table α} (ht : t.keys.Nodup) {key : String} {value : α} :
    t.get? key = some value ↔ (key, value) ∈ t := by
  refine ⟨mem_of_get?, fun h => ?_⟩
  induction t with
  | nil => cases h
  | cons e t ih =>
    obtain ⟨k, v⟩ := e
    obtain ⟨hfirst, hrest⟩ := List.nodup_cons.mp ht
    rcases List.mem_cons.mp h with h | h
    · cases h
      simp [get?]
    · have hne : k ≠ key := by
        intro hkey
        subst hkey
        exact hfirst (List.mem_map.mpr ⟨_, h, rfl⟩)
      rw [get?, if_neg hne]
      exact ih hrest h

/-- The same keys, and under each key what is related. -/
structure Matched (R : α → β → Prop) (t : Table α) (u : Table β) : Prop where
  keys (key : String) : key ∈ t.keys ↔ key ∈ u.keys
  values {key : String} {v : α} {w : β} : t.get? key = some v → u.get? key = some w → R v w

theorem Matched.length_eq {R : α → β → Prop} {t : Table α} {u : Table β} (h : Matched R t u)
    (ht : t.keys.Nodup) (hu : u.keys.Nodup) : t.length = u.length := by
  have hperm := (List.perm_ext_iff_of_nodup ht hu).mpr h.keys
  simpa [Table.keys] using hperm.length_eq

theorem Matched.mono {R S : α → β → Prop} {t : Table α} {u : Table β} (h : Matched R t u)
    (himp : ∀ v w, R v w → S v w) : Matched S t u :=
  ⟨h.keys, fun hv hw => himp _ _ (h.values hv hw)⟩

theorem matched_put_iff {R : α → β → Prop} {t : Table α} {u : Table β} (h : Matched R t u)
    (key : String) (v : α) (w : β) : Matched R (t.put key v) (u.put key w) ↔ R v w := by
  have hput {δ : Type} (s : Table δ) (x : δ) : (s.put key x).get? key = some x := by rw [get?_put, if_pos rfl]
  refine ⟨fun hmatched => hmatched.values (hput t v) (hput u w), fun hvw => ⟨?_, ?_⟩⟩
  · intro other
    rw [mem_keys_put, mem_keys_put, h.keys]
  · intro other v' w' hv' hw'
    rw [get?_put] at hv' hw'
    split at hv'
    · rename_i hkey
      rw [if_pos hkey] at hw'
      cases hv'
      cases hw'
      exact hvw
    · rename_i hkey
      rw [if_neg hkey] at hw'
      exact h.values hv' hw'

/-! ## Entries coming in -/

theorem keys_put (t : Table α) (key : String) (value : α) :
    (t.put key value).keys = if key ∈ t.keys then t.keys else t.keys ++ [key] := by
  induction t with
  | nil => simp [put, keys]
  | cons e t ih =>
    obtain ⟨k, v⟩ := e
    by_cases h : k = key
    · simp [put, keys, h]
    · have hput : (put key value ((k, v) :: t)).keys = k :: (put key value t).keys := by simp [put, keys, h]
      have hmem : key ∈ keys ((k, v) :: t) ↔ key ∈ keys t := by simp [keys, Ne.symm h]
      rw [hput, ih, if_congr hmem rfl rfl]
      split <;> rfl

theorem ofEntries_concat (entries : List (String × α)) (e : String × α) :
    ofEntries (entries ++ [e]) = (ofEntries entries).put e.1 e.2 := List.foldl_concat ..

theorem nodup_keys_ofEntries (entries : List (String × α)) : (ofEntries entries).keys.Nodup := by
  induction entries using List.reverseRecOn with
  | nil => exact .nil
  | append_singleton entries e ih =>
    rw [ofEntries_concat]
    exact nodup_keys_put ih e.1 e.2

/-- A key stays where it first came in. -/
theorem keys_ofEntries (entries : List (String × α)) : (ofEntries entries).keys = (keys entries).eraseDups := by
  induction entries using List.reverseRecOn with
  | nil => rfl
  | append_singleton entries e ih =>
    have hkeys : keys (entries ++ [e]) = keys entries ++ [e.1] := List.map_append
    rw [ofEntries_concat, keys_put, ih, hkeys, List.eraseDups_append]
    by_cases h : e.1 ∈ keys entries <;> simp [h, List.removeAll, List.eraseDups_cons]

/-- What came in last is found first when looking from the end. -/
theorem get?_ofEntries (entries : List (String × α)) (key : String) :
    (ofEntries entries).get? key = get? key entries.reverse := by
  induction entries using List.reverseRecOn with
  | nil => rfl
  | append_singleton entries e ih =>
    rw [ofEntries_concat, get?_put, ih, List.reverse_concat, get?]

theorem get?_eq_some_iff_first {t : Table α} {key : String} {value : α} :
    t.get? key = some value ↔ ∃ front back, t = front ++ (key, value) :: back ∧ key ∉ keys front := by
  induction t with
  | nil => simp [get?]
  | cons e t ih =>
    obtain ⟨k, v⟩ := e
    rw [get?]
    by_cases h : k = key
    · subst h
      rw [if_pos rfl]
      constructor
      · rintro ⟨⟩
        exact ⟨[], t, rfl, List.not_mem_nil⟩
      · rintro ⟨front, back, ht, hkey⟩
        cases front with
        | nil =>
          cases ht
          rfl
        | cons e front =>
          cases ht
          simp [keys] at hkey
    · rw [if_neg h, ih]
      constructor
      · rintro ⟨front, back, rfl, hkey⟩
        exact ⟨(k, v) :: front, back, rfl, List.not_mem_cons_of_ne_of_not_mem (Ne.symm h) hkey⟩
      · rintro ⟨front, back, ht, hkey⟩
        cases front with
        | nil =>
          cases ht
          exact absurd rfl h
        | cons e front =>
          cases ht
          exact ⟨front, back, rfl, fun hmem => hkey (List.mem_cons_of_mem _ hmem)⟩

theorem get?_reverse_eq_some_iff {t : Table α} {key : String} {value : α} :
    get? key t.reverse = some value ↔ ∃ earlier later, t = earlier ++ (key, value) :: later ∧ key ∉ keys later := by
  rw [get?_eq_some_iff_first]
  constructor
  · rintro ⟨front, back, ht, hkey⟩
    refine ⟨back.reverse, front.reverse, ?_, by simpa [keys] using hkey⟩
    rw [← List.reverse_reverse t, ht]
    simp
  · rintro ⟨earlier, later, rfl, hkey⟩
    exact ⟨later.reverse, earlier.reverse, by simp, by simpa [keys] using hkey⟩

end TemplateEngine.Table
