/-
  TemplateEngine.Proofs.Function.Format — texts and values put together by a pattern.

  A pattern is made of texts with a place for a value between each and the next. In the
  texts percent signs are doubled, so none of them is taken for a place, whatever stands
  next to it. Values go in as their texts and are not read again.

  Proved:
  - `fill_doubled`: a text with its percent signs doubled is filled in as it was.
  - `format_interleaves`: texts and values take turns, and the values have to suffice.
-/

import TemplateEngine.Function.Builtin
import TemplateEngine.Proofs.Except

namespace TemplateEngine.Function

def doubledSign (c : Char) : List Char := if c = '%' then ['%', '%'] else [c]

/-- A text with every percent sign twice. -/
def doubled (text : String) : String := String.ofList (text.toList.flatMap doubledSign)

/-- A text and more texts, with a place for a value in front of each of these. -/
def patternOf (text : String) : List String → String
  | [] => doubled text
  | next :: more => doubled text ++ "%s" ++ patternOf next more

/-- A text and more texts, with a value in front of each of these. -/
def interleaved (text : String) : List (Value × String) → String
  | [] => text
  | (v, next) :: more => text ++ v.text ++ interleaved next more

/-- What is missing when there are more places than values. -/
def tooFewValues : FunctionError := .failed "not enough arguments for format string"

/-! ## Filling in -/

variable {values : List Value}

theorem fill_char {c : Char} (h : c ≠ '%') (rest : List Char) :
    fill (c :: rest) values = (c :: ·) <$> fill rest values := by
  rw [fill]
  · rfl
  all_goals simp [h]

theorem fill_doubled (text rest : List Char) :
    fill (text.flatMap doubledSign ++ rest) values = (text ++ ·) <$> fill rest values := by
  induction text with
  | nil => simp
  | cons c text ih =>
    have hsign : fill (doubledSign c ++ (text.flatMap doubledSign ++ rest)) values =
        (c :: ·) <$> fill (text.flatMap doubledSign ++ rest) values := by
      by_cases hc : c = '%'
      · subst hc
        rfl
      · rw [doubledSign, if_neg hc]
        exact fill_char hc _
    rw [List.flatMap_cons, List.append_assoc, hsign, ih]
    cases fill rest values <;> rfl

theorem fill_patternOf (text : String) (texts : List String) (values : List Value) :
    fill (patternOf text texts).toList values =
      if texts.length ≤ values.length then .ok (interleaved text (values.zip texts)).toList
      else .error tooFewValues := by
  induction texts generalizing text values with
  | nil =>
    have hread : fill (text.toList.flatMap doubledSign ++ []) values = .ok (text.toList ++ []) := by
      rw [fill_doubled, fill]
      rfl
    simpa [patternOf, doubled, interleaved] using hread
  | cons next texts ih =>
    have hpattern : (patternOf text (next :: texts)).toList =
        text.toList.flatMap doubledSign ++ '%' :: 's' :: (patternOf next texts).toList := by
      simp [patternOf, doubled]
    rw [hpattern, fill_doubled]
    cases values with
    | nil => rfl
    | cons v values =>
      rw [fill, ih, List.zip_cons_cons, interleaved]
      simp only [List.length_cons, Nat.add_le_add_iff_right, String.toList_append, List.append_assoc]
      split <;> rfl

/-! ## The function -/

theorem textArgument_of_isText {v : Value} (h : v.isText = true) (index : Nat) :
    textArgument index v = .ok v.text := by
  cases v with
  | char c => rfl
  | string s => rfl
  | _ => cases h

/-- A pattern, given as a text of either kind, puts the values between its texts. Values
    beyond the places are not used, and with too few of them there is no result. A text alone
    comes back as it was. -/
theorem format_interleaves (text : String) :
    (∀ (pattern : Value) (texts : List String) (values : List Value),
      pattern.isText = true → pattern.text = patternOf text texts →
        format (pattern :: values) =
          if texts.length ≤ values.length then .ok (.string (interleaved text (values.zip texts)))
          else .error tooFewValues) ∧
    format [.string (doubled text)] = .ok (.string text) := by
  have hfill (pattern : Value) (texts : List String) (values : List Value) (hkind : pattern.isText = true)
      (hpattern : pattern.text = patternOf text texts) : format (pattern :: values) =
        if texts.length ≤ values.length then .ok (.string (interleaved text (values.zip texts)))
        else .error tooFewValues := by
    rw [format, textArgument_of_isText hkind, Except.ok_bind, hpattern, fill_patternOf]
    split
    · rw [Except.ok_bind, String.ofList_toList]
      rfl
    · rfl
  exact ⟨hfill, hfill (.string (doubled text)) [] [] rfl rfl⟩

/-- Percent signs stand on both sides of a place and in a value. With three values one is left
    over, with one there are too few. -/
theorem format_interleaves_signs :
    let pattern : Value := .string "100%% of %s%%%s"
    let texts := ["%", ""]
    (pattern.isText = true ∧ pattern.text = patternOf "100% of " texts) ∧
    format [pattern, .string "%s", .int 7, .null] = .ok (.string "100% of %s%7") ∧
    format [pattern, .string "%s"] = .error tooFewValues := by
  intro pattern texts
  have hpattern : pattern.text = patternOf "100% of " texts := by decide +kernel
  have hformat := (format_interleaves "100% of ").1 pattern texts
  refine ⟨⟨rfl, hpattern⟩, ?_, ?_⟩
  · rw [hformat _ rfl hpattern]
    rfl
  · rw [hformat _ rfl hpattern]
    rfl

end TemplateEngine.Function
