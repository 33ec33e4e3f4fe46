/-
  TemplateEngine.Proofs.Operator.Matching — patterns that describe whole texts.

  Which parts of a text a pattern describes is for the library to say, and its tests only
  tell whether there is one. Between anchors a pattern has the whole text for its only part,
  provided that it is a pattern by itself: `a)|(b` is none, but would be one between
  the brackets of the group, and each half of it would have one anchor.

  Proved:
  - `matching_texts`: of two texts the operator tells whether the second describes all of the
    first, or what the library has against it.
-/

import TemplateEngine.Operator.Apply
import TemplateEngine.Proofs.Except

namespace TemplateEngine.Operator

open TemplateEngine.Except (bind_eq_error mapError_eq_ok mapError_eq_error)

/-- What is known of a library whose pattern describes the characters of a text from one place
    to another. -/
structure Patterns.Lawful (patterns : Patterns) (describes : String → List Char → Nat → Nat → Prop) : Prop where
  searches {pattern : String} {test : String → Bool} : patterns pattern = .ok test →
    ∀ text, test text = true ↔ ∃ i j, describes pattern text.toList i j
  anchored {pattern : String} {alone test : String → Bool} : patterns pattern = .ok alone →
    patterns (anchored pattern) = .ok test →
      ∀ text i j, describes (Operator.anchored pattern) text i j ↔
        i = 0 ∧ j = text.length ∧ describes pattern text i j

variable {patterns : Patterns} {a b : Value}

theorem apply_matching (ha : a.isText = true) (hb : b.isText = true) :
    matching.apply patterns a b = (do
      let _ ← compiled patterns b.text
      let test ← compiled patterns (anchored b.text)
      return .bool (test a.text)) := by
  rw [apply, matchWhole, ha, hb]
  rfl

/-- A pattern has to be one alone and between anchors. The first complaint of the library is
    the failure. -/
theorem matching_texts {describes : String → List Char → Nat → Nat → Prop} (h : patterns.Lawful describes)
    (ha : a.isText = true) (hb : b.isText = true) :
    (∀ alone test, patterns b.text = .ok alone → patterns (anchored b.text) = .ok test →
      ∃ answer, matching.apply patterns a b = .ok (.bool answer) ∧
        (answer = true ↔ describes b.text a.text.toList 0 a.text.toList.length)) ∧
    ∀ e, matching.apply patterns a b = .error e ↔ ∃ cause, e = .invalidPattern cause ∧
      (patterns b.text = .error cause ∨
        (∃ alone, patterns b.text = .ok alone) ∧ patterns (anchored b.text) = .error cause) := by
  rw [apply_matching ha hb, compiled, compiled]
  refine ⟨fun alone test halone htest => ?_, fun e => ?_⟩
  · rw [halone, htest]
    refine ⟨_, rfl, (h.searches htest a.text).trans ?_⟩
    simp only [h.anchored halone htest]
    constructor
    · rintro ⟨_, _, rfl, rfl, hdescribes⟩
      exact hdescribes
    · exact fun hdescribes => ⟨0, _, rfl, rfl, hdescribes⟩
  · simp only [bind_eq_error, mapError_eq_ok, mapError_eq_error]
    constructor
    · rintro (⟨cause, hcause, rfl⟩ | ⟨alone, halone, ⟨cause, hcause, rfl⟩ | ⟨_, -, hreturn⟩⟩)
      · exact ⟨cause, rfl, .inl hcause⟩
      · exact ⟨cause, rfl, .inr ⟨⟨alone, halone⟩, hcause⟩⟩
      · cases hreturn
    · rintro ⟨cause, rfl, hcause | ⟨⟨alone, halone⟩, hcause⟩⟩
      · exact .inl ⟨cause, hcause, rfl⟩
      · exact .inr ⟨alone, halone, .inl ⟨cause, hcause, rfl⟩⟩

end TemplateEngine.Operator
