/-
  TemplateEngine.Proofs.Grammar.Stays — where a rule leaves off if it does not apply.

  A rule that does not apply stays where it was tried. Some have read further by then: a list
  that has read a number but no range, an operator without its operand, a key without its
  bracket, an argument that is none. They go back, whatever the rules that they refer to do.

  Proved:
  - `Stays` of every rule of expressions, for all rules for values and expressions.
  - `upTo_stays`: and so of values and expressions themselves.
-/

import TemplateEngine.Proofs.Grammar.Looseness

namespace TemplateEngine.Grammar

open Scan TemplateEngine.Except
open Operator (Level)

/-- Where the rule does not apply it leaves off where it was tried. -/
def Stays {α : Type} (rule : Rule α) : Prop := ∀ s r, rule s = .ok (none, r) → r = s

namespace Stays

variable {α : Type} {rule : Rule α} {s : List Char} (h : Stays rule)
include h

theorem none_of {r : List Char} (hnone : rule s = .ok (none, r)) : rule s = .ok (none, s) := by
  obtain rfl := h s r hnone
  exact hnone

theorem exists_none_iff {P : List Char → Prop} :
    (∃ r, rule s = .ok (none, r) ∧ P r) ↔ rule s = .ok (none, s) ∧ P s := by
  constructor
  · rintro ⟨r, hnone, hr⟩
    obtain rfl := h s r hnone
    exact ⟨hnone, hr⟩
  · rintro ⟨hnone, hs⟩
    exact ⟨s, hnone, hs⟩

theorem exists_none : (∃ r, rule s = .ok (none, r)) ↔ rule s = .ok (none, s) :=
  ⟨fun ⟨_, hnone⟩ => h.none_of hnone, fun hnone => ⟨s, hnone⟩⟩

end Stays

theorem rest_of_none {α : Type} {s r : List Char}
    (h : (.ok (none, s) : Except Fault (Option α × List Char)) = .ok (none, r)) : r = s :=
  (Prod.mk.inj (Except.ok.inj h)).2.symm

/-! ## Rules made of others -/

section Combined

variable {α : Type} {expr primary operand : Rule Expr}

theorem orElse_stays {first second : Rule α} (hfirst : Stays first) (hsecond : Stays second) :
    Stays (orElse first second) := by
  intro s r h
  obtain ⟨⟨found, rest⟩, hf, hs⟩ := bind_eq_ok.mp h
  cases found with
  | some x => cases hs
  | none =>
    obtain rfl := hfirst s rest hf
    exact hsecond _ r hs

theorem level_stays (h : Stays operand) (l : Level) : Stays (level l operand) := by
  intro s r hnone
  obtain ⟨⟨found, rest⟩, hoperand, hmore⟩ := bind_eq_ok.mp hnone
  cases found with
  | some first =>
    obtain ⟨more, -, hmore⟩ := bind_eq_ok.mp hmore
    cases hmore
  | none =>
    obtain rfl := rest_of_none hmore
    exact h s _ hoperand

theorem negatable_stays (h : Stays operand) : Stays (negatable operand) := by
  intro s r hnone
  unfold negatable at hnone
  split at hnone
  · exact h s r hnone
  · obtain ⟨⟨found, rest⟩, -, hmore⟩ := bind_eq_ok.mp hnone
    cases found <;> cases hmore

theorem ternaryRule_stays (h : Stays primary) : Stays (ternaryRule primary expr) := by
  intro s r hnone
  obtain ⟨⟨found, rest⟩, hcondition, hmore⟩ := bind_eq_ok.mp hnone
  cases found with
  | none =>
    obtain rfl := rest_of_none hmore
    exact h s _ hcondition
  | some condition =>
    dsimp only at hmore
    split at hmore
    · cases hmore
    · obtain ⟨_, -, hmore⟩ := bind_eq_ok.mp hmore
      obtain ⟨_, -, hmore⟩ := bind_eq_ok.mp hmore
      obtain ⟨_, -, hmore⟩ := bind_eq_ok.mp hmore
      cases hmore

theorem behind_stays (h : Stays operand) (extend : Expr → List Char → Except Fault (Expr × List Char)) :
    Stays (behind operand extend) := by
  intro s r hnone
  obtain ⟨⟨found, rest⟩, hrule, hmore⟩ := bind_eq_ok.mp hnone
  cases found with
  | none =>
    obtain rfl := rest_of_none hmore
    exact h s _ hrule
  | some e =>
    obtain ⟨_, -, hmore⟩ := bind_eq_ok.mp hmore
    cases hmore

end Combined

/-! ## Forms -/

variable (primary expr : Rule Expr)

theorem enclosed_stays (opening closing : String) : Stays (enclosed opening closing expr) := by
  intro s r h
  unfold enclosed at h
  split at h
  · exact rest_of_none h
  · split at h
    · cases h
    · obtain ⟨_, -, h⟩ := bind_eq_ok.mp h
      obtain ⟨_, -, h⟩ := bind_eq_ok.mp h
      obtain ⟨_, -, h⟩ := bind_eq_ok.mp h
      cases h

theorem fixedKey_stays : Stays fixedKey := by
  intro s r h
  unfold fixedKey at h
  split at h
  · exact rest_of_none h
  · obtain ⟨⟨found, rest⟩, -, h⟩ := bind_eq_ok.mp h
    cases found with
    | none => exact rest_of_none h
    | some key =>
      dsimp only at h
      split at h
      · cases h
      · exact rest_of_none h

theorem listLiteral_stays : Stays (listLiteral expr) := by
  intro s r h
  rw [listLiteral_eq] at h
  split at h
  · cases h
  · split at h
    · cases h
    · obtain ⟨⟨items, rest⟩, henclosed, h⟩ := bind_eq_ok.mp h
      cases items with
      | some items => cases h
      | none =>
        obtain rfl := rest_of_none h
        exact enclosed_stays expr "[" "]" s _ henclosed

theorem mapLiteral_stays : Stays (mapLiteral expr) := by
  intro s r h
  unfold mapLiteral at h
  split at h
  · exact rest_of_none h
  · split at h
    · cases h
    · obtain ⟨_, -, h⟩ := bind_eq_ok.mp h
      cases h

theorem mapKey_stays : Stays mapKey := by
  intro s r h
  unfold mapKey at h
  split at h
  · cases h
  · exact string?_stays h

theorem wordLiteral_stays (word : String) (l : Literal) : Stays (wordLiteral word l) := by
  intro s r h
  unfold wordLiteral at h
  split at h
  · cases h
  · exact rest_of_none h

theorem numeral_stays {α : Type} {scan : Scanner α} {scan? : List Char → Option (α × List Char)}
    (heq : ∀ s, scan s = stay scan? s) (l : α → Literal) : Stays (numeral scan l) := by
  intro s r h
  rw [numeral, heq, stay] at h
  cases hscan : scan? s with
  | some found => rw [hscan] at h; cases h
  | none => rw [hscan] at h; exact rest_of_none h

theorem quotedLiteral_stays : Stays quotedLiteral := by
  intro s r h
  obtain ⟨⟨found, rest⟩, hstring, h⟩ := bind_eq_ok.mp h
  cases found with
  | some text => cases h
  | none =>
    obtain rfl := rest_of_none h
    exact string?_stays hstring

theorem scalar_stays : Stays scalar :=
  orElse_stays quotedLiteral_stays <| orElse_stays (wordLiteral_stays _ _) <|
    orElse_stays (wordLiteral_stays _ _) <| orElse_stays (numeral_stays double_eq _) <|
      orElse_stays (numeral_stays integer_eq _) (wordLiteral_stays _ _)

theorem literal_stays : Stays literal := by
  intro s r h
  obtain ⟨⟨found, rest⟩, hscalar, h⟩ := bind_eq_ok.mp h
  cases found with
  | some l => cases h
  | none =>
    obtain rfl := rest_of_none h
    exact scalar_stays s _ hscalar

theorem called_ne_none {name : String} {s r : List Char} : called expr name s ≠ .ok (none, r) := by
  intro h
  obtain ⟨⟨found, rest⟩, -, h⟩ := bind_eq_ok.mp h
  cases found <;> cases h

theorem functionReference_stays : Stays (functionReference expr) := by
  intro s r h
  unfold functionReference at h
  split at h
  · exact rest_of_none h
  · exact absurd h (called_ne_none expr)

theorem selectionStep_stays : Stays (selectionStep expr) := by
  intro s r h
  unfold selectionStep at h
  split at h
  · exact rest_of_none h
  · obtain ⟨⟨found, rest⟩, -, h⟩ := bind_eq_ok.mp h
    cases found with
    | some key => cases h
    | none => exact absurd h (called_ne_none expr)

/-- Only the name decides whether a name is read. -/
theorem named_none {s r : List Char} (h : named primary expr s = .ok (none, r)) : identifier? s = none ∧ r = s := by
  unfold named at h
  split at h
  · rename_i hname
    exact ⟨hname, rest_of_none h⟩
  · obtain ⟨⟨found, rest⟩, -, h⟩ := bind_eq_ok.mp h
    cases found with
    | some key => cases h
    | none =>
      obtain ⟨⟨found, rest⟩, -, h⟩ := bind_eq_ok.mp h
      cases found with
      | some args => cases h
      | none =>
        dsimp only at h
        split at h
        · cases h
        · obtain ⟨⟨found, rest⟩, -, h⟩ := bind_eq_ok.mp h
          cases found <;> cases h

theorem named_stays : Stays (named primary expr) := fun _ _ h => (named_none primary expr h).2

theorem basic_stays : Stays (basic primary expr) :=
  orElse_stays (listLiteral_stays expr) <| orElse_stays (mapLiteral_stays expr) <|
    orElse_stays literal_stays (named_stays primary expr)

theorem parenthesized_stays : Stays (parenthesized expr) := by
  intro s r h
  unfold parenthesized at h
  split at h
  · exact rest_of_none h
  · obtain ⟨_, -, h⟩ := bind_eq_ok.mp h
    obtain ⟨_, -, h⟩ := bind_eq_ok.mp h
    cases h

/-! ## The ladder -/

theorem loosen_stays {tighter : Rule Expr} (h : Stays tighter) (k : Nat) : Stays (loosen expr k tighter) := by
  unfold loosen
  split
  · exact behind_stays h _
  · exact behind_stays h _
  · exact ternaryRule_stays h
  · exact level_stays h _
  · exact level_stays h _
  · exact negatable_stays h
  all_goals exact level_stays h _

theorem ruleOf_stays (k : Nat) : Stays (ruleOf primary expr k) := by
  induction k with
  | zero => exact orElse_stays (parenthesized_stays expr) (basic_stays primary expr)
  | succ k ih => exact loosen_stays expr ih k

theorem upTo_stays (n : Nat) : Stays (primaryUpTo n) ∧ Stays (expressionUpTo n) := by
  cases n with
  | zero => exact ⟨fun _ _ h => rest_of_none h, fun _ _ h => rest_of_none h⟩
  | succ n =>
    constructor
    · intro s r h
      exact ruleOf_stays _ _ 2 s r (primaryUpTo_succ n s ▸ h)
    · intro s r h
      exact ruleOf_stays _ _ 11 s r (expressionUpTo_succ n s ▸ h)

theorem expression_stays : Stays expression := fun s => (upTo_stays s.length).2 s

end TemplateEngine.Grammar
