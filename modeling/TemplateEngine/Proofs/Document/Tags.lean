/-
  TemplateEngine.Proofs.Document.Tags — what is read of tags as they are written.

  A tag opens with its word (`openTag_tag`) and is told from the others by it
  (`tagWord?_tag`). Behind an expression its end is taken for the end (`follows_tagEnd`), though
  a remainder has the same sign, and a filter of a loop is taken for no stage
  (`follows_printFilters`), though both have the same mark.
-/

import TemplateEngine.Grammar.Document
import TemplateEngine.Proofs.Document.Print
import TemplateEngine.Proofs.Expression.RoundTrip
import TemplateEngine.Proofs.Grammar.StatementInversion
import TemplateEngine.Proofs.Scan.Token

namespace TemplateEngine.Grammar

open Scan TemplateEngine.Except
open TemplateEngine.Expr (Place Readable)

/-! ## Opening and closing -/

theorem unspaced_tag (word : String) (inside : List Char) : Unspaced (tag word inside) where
  notSpace := fun _ h => Option.some.inj h ▸ rfl
  notComment := rfl

theorem unspaced_tagEnd (rest : List Char) : Unspaced (tagEnd rest) := .cons _ rfl (by decide)

theorem skipSpacing_tag (word : String) (inside : List Char) : skipSpacing (tag word inside) = tag word inside :=
  skipSpacing_of_unspaced (unspaced_tag word inside)

theorem skipSpacing_tagEnd (rest : List Char) : skipSpacing (tagEnd rest) = tagEnd rest :=
  skipSpacing_of_unspaced (unspaced_tagEnd rest)

theorem skipSpacing_space_tagEnd (rest : List Char) : skipSpacing (' ' :: tagEnd rest) = tagEnd rest := by
  rw [skipSpacing_space rfl, skipSpacing_tagEnd]

/-- The first letter of a keyword ends spacing. -/
theorem unspaced_keyword {word : String} (h : isKeyword word = true) (rest : List Char) :
    Unspaced (word.toList ++ rest) := by
  have hstart : ∀ w ∈ keywords, w.toList.head?.any fun c => !isSpace c && c != '\x7b' := by decide
  have hword := hstart word (List.contains_iff_mem.mp h)
  cases hw : word.toList with
  | nil => rw [hw] at hword; cases hword
  | cons c cs =>
    rw [hw] at hword
    have hc : isSpace c = false ∧ c ≠ '\x7b' := by simpa using hword
    exact .cons _ hc.1 hc.2

/-- A tag is opened by its word, whatever ends the word. -/
theorem openTag?_word {word : String} (h : isKeyword word = true) {inside : List Char}
    (hinside : Stops isLetterOrDigit inside) :
    openTag? word ('\x7b' :: '%' :: ' ' :: (word.toList ++ inside)) = some (skipSpacing inside) := by
  have hmark : mark? "\x7b%" ('\x7b' :: '%' :: ' ' :: (word.toList ++ inside)) =
      some (' ' :: (word.toList ++ inside)) := rfl
  rw [openTag?, hmark]
  show keyword? word (skipSpacing (' ' :: (word.toList ++ inside))) = _
  rw [skipSpacing_space rfl, skipSpacing_of_unspaced (unspaced_keyword h _), keyword?_append h hinside]

theorem openTag?_tag {word : String} (h : isKeyword word = true) (inside : List Char) :
    openTag? word (tag word inside) = some (skipSpacing inside) := by
  have hread := openTag?_word h (Stops.cons rfl : Stops isLetterOrDigit (' ' :: inside))
  rwa [skipSpacing_space rfl] at hread

theorem openTag_tag {word : String} (h : isKeyword word = true) {inside : List Char}
    (hinside : Unspaced inside) : openTag word (tag word inside) = .ok inside := by
  rw [openTag, openTag?_tag h, skipSpacing_of_unspaced hinside]

/-- A tag that its word opens is told from the others by that word. -/
theorem tagWord?_of_openTag? {word : String} (h : isKeyword word = true) {s rest : List Char}
    (hopen : openTag? word s = some rest) : tagWord? s = some word := by
  obtain ⟨r, hmark, hread⟩ := openTag?_eq_some_iff.mp hopen
  obtain ⟨t, hr, hstop, -⟩ := (keyword?_eq_some_iff h).mp hread
  have htake : (skipSpacing r).takeWhile isLetterOrDigit = word.toList := by
    rw [hr, takeWhile_run (keyword_letters h) hstop]
  have hsome : word.toList.isEmpty = false := by
    have hall : ∀ w ∈ keywords, w.toList.isEmpty = false := by decide
    exact hall word (List.contains_iff_mem.mp h)
  simp only [tagWord?, hmark, htake, hsome, String.ofList_toList]
  rfl

theorem tagWord?_word {word : String} (h : isKeyword word = true) {inside : List Char}
    (hinside : Stops isLetterOrDigit inside) :
    tagWord? ('\x7b' :: '%' :: ' ' :: (word.toList ++ inside)) = some word :=
  tagWord?_of_openTag? h (openTag?_word h hinside)

theorem tagWord?_tag {word : String} (h : isKeyword word = true) (inside : List Char) :
    tagWord? (tag word inside) = some word := tagWord?_word h (Stops.cons rfl)

theorem closeTag_tagEnd (directive : Directive) (start rest : List Char) :
    closeTag directive start (tagEnd rest) = .ok rest := by
  rw [closeTag, skipSpacing_tagEnd]
  rfl

theorem closeTag_space (directive : Directive) (start rest : List Char) :
    closeTag directive start (' ' :: tagEnd rest) = .ok rest := by
  rw [closeTag, skipSpacing_space_tagEnd]
  rfl

/-- An end clause as it is written, without a name. -/
theorem endClause_tag {word : String} (h : isKeyword word = true) (directive : Directive)
    (start rest : List Char) : endClause word directive start (tag word (tagEnd rest)) = .ok rest := by
  have hname : identifier? (tagEnd rest) = none := identifier?_of_stops (Stops.cons rfl)
  have hrest : (if directive = .block then ((identifier? (tagEnd rest)).map (·.2)).getD (tagEnd rest)
      else tagEnd rest) = tagEnd rest := by
    rw [hname]
    split <;> rfl
  rw [endClause, tagWord?_tag h, if_neg (by simp)]
  simp only [openTag_tag h (unspaced_tagEnd rest), Except.ok_bind, hrest, closeTag_tagEnd]

/-! ## Behind an expression -/

theorem ruleUpTo_absent_of_stops {s : List Char} (h : Stops startsBase s) (n k : Nat) :
    ruleUpTo n k s = .ok (none, s) := by
  refine ruleOf_absent (base_absent_of_stops h) fun _ => ?_
  exact keyword?_of_stops "not" h rfl

theorem follows_tagEnd (bound : Nat) (rest : List Char) : Follows bound (' ' :: tagEnd rest) where
  word := Stops.cons rfl
  fraction := not_fraction (by decide) _
  range := by rw [skipSpacing_space_tagEnd]; rfl
  argument := by
    rw [skipSpacing_space_tagEnd]
    exact .inr (primaryUpTo_absent fun n => base_absent_of_stops (Stops.cons rfl))
  step := by
    intro _ _ _ h
    rw [skipSpacing_space_tagEnd] at h
    cases h
  stage := by
    intro _ _ _ h
    rw [skipSpacing_space_tagEnd] at h
    cases h
  choice := by
    intro _
    rw [skipSpacing_space_tagEnd]
    rfl
  operator := by
    intro l _ op after h n
    rw [skipSpacing_space_tagEnd] at h
    cases l with
    | product =>
      -- the remainder's sign, with a brace in place of an operand
      have hread : operator? Operator.Level.product.operators (tagEnd rest) =
          some (.remainder, skipSpacing ('\x7d' :: rest)) := rfl
      rw [hread, skipSpacing_closer rfl] at h
      cases h
      exact ruleUpTo_absent_of_stops (Stops.cons rfl) n _
    | _ => cases h

theorem follows_outputEnd (bound : Nat) (rest : List Char) :
    Follows bound (' ' :: '\x7d' :: '\x7d' :: rest) := by
  refine .of_stops bound (s := '\x7d' :: '\x7d' :: rest) ?_ rfl (by decide) (Stops.cons rfl)
  rw [skipSpacing_space rfl, skipSpacing_closer rfl]

theorem skipSpacing_filter (rest : List Char) :
    skipSpacing (' ' :: '|' :: ' ' :: ("filter".toList ++ ' ' :: rest)) =
      '|' :: ' ' :: ("filter".toList ++ ' ' :: rest) := by
  rw [skipSpacing_space rfl, skipSpacing_of_unspaced (.cons _ rfl (by decide))]

theorem symbol?_filter (rest : List Char) :
    symbol? "|" ('|' :: ' ' :: ("filter".toList ++ ' ' :: rest)) = some ("filter".toList ++ ' ' :: rest) := by
  have hread := symbol?_append "|" (' ' :: ("filter".toList ++ ' ' :: rest))
  rwa [skipSpacing_space rfl, skipSpacing_of_unspaced (unspaced_keyword (by decide) _)] at hread

theorem follows_filter (bound : Nat) (rest : List Char) :
    Follows bound (' ' :: '|' :: ' ' :: ("filter".toList ++ ' ' :: rest)) := by
  have hmark := Follows.stage_mark (' ' :: ("filter".toList ++ ' ' :: rest))
  refine { hmark with step := fun _ => hmark.step (Nat.le_refl 1), stage := ?_, choice := ?_, operator := ?_ }
  · -- a keyword is no function's name
    intro _ expr after h
    rw [skipSpacing_filter, symbol?_filter] at h
    cases h
    have hname : identifier? ("filter".toList ++ ' ' :: rest) = none := by
      refine identifier?_keyword ?_
      rw [takeWhile_run (keyword_letters (by decide)) (Stops.cons rfl), String.ofList_toList]
      decide
    rw [functionReference, hname]
  · intro _
    rw [skipSpacing_filter]
    rfl
  · intro l _ op after h
    rw [skipSpacing_filter] at h
    cases l <;> cases h

variable (extra : Place → Expr → Bool)

theorem follows_printFilters (bound : Nat) (filters : List Expr) (rest : List Char) :
    Follows bound (printFilters extra filters rest) := by
  cases filters with
  | nil => exact follows_tagEnd bound rest
  | cons filter filters => exact follows_filter bound _

theorem expression_written {e : Expr} (h : Readable e) {rest : List Char} (hrest : Follows 11 rest) :
    required expression (e.written extra .free ++ rest) = .ok (e, skipSpacing rest) := by
  have hlen : (e.written extra .free).length ≤ (e.written extra .free ++ rest).length := by
    rw [List.length_append]
    exact Nat.le_add_right ..
  exact h.required_free extra hlen hrest

end TemplateEngine.Grammar
