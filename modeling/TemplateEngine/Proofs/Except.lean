/-
  TemplateEngine.Proofs.Except — taking calculations that may fail apart.

  A step after another succeeds when both do. With these laws a rule written with `do` is
  read from its result back to the results of its steps.
-/

namespace TemplateEngine.Except

variable {ε ε' α β : Type}

theorem bind_eq_ok {x : Except ε α} {f : α → Except ε β} {b : β} :
    x >>= f = .ok b ↔ ∃ a, x = .ok a ∧ f a = .ok b := by
  cases x with
  | ok a => exact ⟨fun h => ⟨a, rfl, h⟩, fun ⟨_, ha, h⟩ => Except.ok.inj ha ▸ h⟩
  | error e => exact ⟨nofun, fun ⟨_, ha, _⟩ => nomatch ha⟩

theorem bind_eq_error {x : Except ε α} {f : α → Except ε β} {e : ε} :
    x >>= f = .error e ↔ x = .error e ∨ ∃ a, x = .ok a ∧ f a = .error e := by
  cases x with
  | ok a => exact ⟨fun h => .inr ⟨a, rfl, h⟩, fun | .inr ⟨_, ha, h⟩ => Except.ok.inj ha ▸ h⟩
  | error d =>
    constructor
    · exact fun h => .inl (congrArg Except.error (Except.error.inj h))
    · rintro (h | ⟨_, ha, -⟩)
      · exact congrArg Except.error (Except.error.inj h)
      · cases ha

theorem mapError_eq_ok {x : Except ε α} {f : ε → ε'} {a : α} :
    x.mapError f = .ok a ↔ x = .ok a := by
  cases x with
  | ok b => exact ⟨fun h => Except.ok.inj h ▸ rfl, fun h => Except.ok.inj h ▸ rfl⟩
  | error e => exact ⟨nofun, nofun⟩

theorem mapError_eq_error {x : Except ε α} {f : ε → ε'} {e : ε'} :
    x.mapError f = .error e ↔ ∃ d, x = .error d ∧ f d = e := by
  cases x with
  | ok a => exact ⟨nofun, fun ⟨_, hd, _⟩ => nomatch hd⟩
  | error d => exact ⟨fun h => ⟨d, rfl, Except.error.inj h⟩, fun ⟨_, hd, h⟩ => Except.error.inj hd ▸ h ▸ rfl⟩

theorem pure_eq_ok {a b : α} : (pure a : Except ε α) = .ok b ↔ a = b :=
  ⟨Except.ok.inj, congrArg Except.ok⟩

theorem map_eq_ok {x : Except ε α} {f : α → β} {b : β} :
    f <$> x = .ok b ↔ ∃ a, x = .ok a ∧ f a = b := by
  cases x with
  | ok a => exact ⟨fun h => ⟨a, rfl, Except.ok.inj h⟩, fun ⟨_, ha, h⟩ => Except.ok.inj ha ▸ congrArg Except.ok h⟩
  | error e => exact ⟨nofun, fun ⟨_, ha, _⟩ => nomatch ha⟩

theorem throw_ne_ok {e : ε} {a : α} : (throw e : Except ε α) ≠ .ok a := nofun

theorem ok_bind (a : α) (f : α → Except ε β) : (Except.ok a >>= f) = f a := rfl

/-- What follows a calculation matters for its results only. -/
theorem bind_congr_ok {x x' : Except ε α} {f f' : α → Except ε β} (hx : x = x')
    (h : ∀ a, x = .ok a → f a = f' a) : x >>= f = x' >>= f' := by
  subst hx
  cases x with
  | error e => rfl
  | ok a => exact h a rfl

end TemplateEngine.Except
