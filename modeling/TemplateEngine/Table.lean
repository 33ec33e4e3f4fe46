/-
  TemplateEngine.Table — entries under text keys, in the order in which their keys first
  came in.

  Putting an entry under a key that is there replaces it in its place; a new key goes to
  the end. So keys stay unique, and the order is that of first occurrence.
-/

namespace TemplateEngine

abbrev Table (α : Type) := List (String × α)

namespace Table

variable {α β : Type}

def get? (key : String) : Table α → Option α
  | [] => none
  | (k, v) :: rest => if k = key then some v else get? key rest

def put (key : String) (value : α) : Table α → Table α
  | [] => [(key, value)]
  | (k, v) :: rest => if k = key then (k, value) :: rest else (k, v) :: put key value rest

/-- The table left by entries coming in one after the other. -/
def ofEntries (entries : List (String × α)) : Table α :=
  entries.foldl (fun t e => t.put e.1 e.2) []

def keys (t : Table α) : List String := t.map (·.1)

def hasKey (t : Table α) (key : String) : Bool := (t.get? key).isSome

theorem get?_put (t : Table α) (key other : String) (value : α) :
    (t.put key value).get? other = if key = other then some value else t.get? other := by
  induction t with
  | nil => simp [put, get?]
  | cons e t ih =>
    obtain ⟨k, v⟩ := e
    by_cases h : k = key
    · subst h
      by_cases ho : k = other <;> simp [put, get?, ho]
    · by_cases ho : k = other
      · subst ho
        simp [put, get?, h, Ne.symm h]
      · simp [put, get?, h, ho, ih]

theorem mem_keys_put (t : Table α) (key other : String) (value : α) :
    other ∈ (t.put key value).keys ↔ other = key ∨ other ∈ t.keys := by
  induction t with
  | nil => simp [put, keys]
  | cons e t ih =>
    obtain ⟨k, v⟩ := e
    by_cases h : k = key <;> simp_all [put, keys, or_left_comm]

theorem nodup_keys_put {t : Table α} (h : t.keys.Nodup) (key : String) (value : α) :
    (t.put key value).keys.Nodup := by
  induction t with
  | nil => simp [put, keys]
  | cons e t ih =>
    obtain ⟨k, v⟩ := e
    have hk : k ∉ keys t ∧ (keys t).Nodup := by simpa [keys] using h
    by_cases hkey : k = key
    · simpa [put, hkey, keys] using h
    · have hn : k ∉ keys (put key value t) := by
        rw [mem_keys_put]
        rintro (rfl | hm)
        · exact hkey rfl
        · exact hk.1 hm
      have : keys (put key value ((k, v) :: t)) = k :: keys (put key value t) := by
        simp [put, hkey, keys]
      rw [this]
      exact List.nodup_cons.2 ⟨hn, ih hk.2⟩

end Table

end TemplateEngine
