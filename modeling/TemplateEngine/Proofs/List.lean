/-
  TemplateEngine.Proofs.List — how long a text is that is put together from pieces.
-/

namespace TemplateEngine

variable {α β : Type} {f : α → List β}

theorem length_le_flatMap {l : List α} {a : α} (h : a ∈ l) : (f a).length ≤ (l.flatMap f).length := by
  induction l with
  | nil => cases h
  | cons b l ih =>
    rw [List.flatMap_cons, List.length_append]
    rcases List.mem_cons.mp h with rfl | h
    · omega
    · have := ih h; omega

theorem length_le_length_flatMap (l : List α) (h : ∀ a, 0 < (f a).length) :
    l.length ≤ (l.flatMap f).length := by
  induction l with
  | nil => exact Nat.le_refl 0
  | cons a l ih =>
    rw [List.flatMap_cons, List.length_append, List.length_cons]
    have := h a
    omega

end TemplateEngine
