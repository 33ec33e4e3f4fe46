/-
  TemplateEngine.Proofs.Value.Parts — values inside values.

  Lists and maps hold values of their own. A fact about values of any depth is one
  induction (`value_induction`), whatever holds the parts. `Portable` values have no double
  in them and no key twice in a map, at any depth.
-/

import TemplateEngine.Value.Basic

namespace TemplateEngine.Value

/-! ## Induction over values of any depth -/

/-- The values directly inside a value. -/
def parts : Value → List Value
  | list items => items
  | map entries => entries.map (·.2)
  | _ => []

theorem sizeOf_lt_of_mem_parts {v part : Value} (h : part ∈ v.parts) : sizeOf part < sizeOf v := by
  cases v with
  | list items =>
    have := List.sizeOf_lt_of_mem (show part ∈ items from h)
    simp only [list.sizeOf_spec]
    omega
  | map entries =>
    obtain ⟨⟨key, v⟩, he, rfl⟩ := List.mem_map.mp h
    have := List.sizeOf_lt_of_mem he
    simp only [Prod.mk.sizeOf_spec, map.sizeOf_spec] at this ⊢
    omega
  | _ => cases h

theorem value_induction {motive : Value → Prop} (step : ∀ v, (∀ part ∈ v.parts, motive part) → motive v) :
    ∀ v, motive v :=
  fun v => step v fun part _ => value_induction step part
termination_by v => sizeOf v
decreasing_by exact sizeOf_lt_of_mem_parts ‹_›

/-! ## Values without doubles -/

/-- The first value is the second one or stands in it, at any depth. -/
inductive Inside : Value → Value → Prop
  | self (v : Value) : Inside v v
  | item {w v : Value} {items : List Value} : v ∈ items → Inside w v → Inside w (.list items)
  | entry {w v : Value} {key : String} {entries : List (String × Value)} :
      (key, v) ∈ entries → Inside w v → Inside w (.map entries)

/-- JSON can tell the value: there is no double in it, and no key twice in a map. -/
structure Portable (v : Value) : Prop where
  noDouble : ∀ x, ¬ Inside (.float x) v
  keys : ∀ entries, Inside (.map entries) v → (Table.keys entries).Nodup

theorem portable_list {items : List Value} : Portable (.list items) ↔ ∀ v ∈ items, v.Portable := by
  constructor
  · intro h v hv
    exact ⟨fun x hx => h.noDouble x (.item hv hx), fun entries he => h.keys entries (.item hv he)⟩
  · intro h
    refine ⟨fun x hx => ?_, fun entries he => ?_⟩
    · cases hx with
      | item hv hx => exact (h _ hv).noDouble x hx
    · cases he with
      | item hv he => exact (h _ hv).keys entries he

theorem portable_map {entries : List (String × Value)} :
    Portable (.map entries) ↔ (Table.keys entries).Nodup ∧ ∀ e ∈ entries, e.2.Portable := by
  constructor
  · intro h
    refine ⟨h.keys entries (.self _), fun e hv => ⟨fun x hx => ?_, fun inner he => ?_⟩⟩
    · exact h.noDouble x (.entry hv hx)
    · exact h.keys inner (.entry hv he)
  · rintro ⟨hkeys, h⟩
    refine ⟨fun x hx => ?_, fun inner he => ?_⟩
    · cases hx with
      | entry hv hx => exact (h _ hv).noDouble x hx
    · cases he with
      | self => exact hkeys
      | entry hv he => exact (h _ hv).keys inner he

theorem not_portable_float (x : Double) : ¬ Portable (.float x) := fun h => h.noDouble x (.self _)

end TemplateEngine.Value
