/-
  TemplateEngine.Proofs.Grammar.Inversion — the rules of expressions, read from their results.

  One equivalence for each rule: it has read this, and left that, exactly if its parts have
  read their parts one behind the other. The forms tried earlier read nothing then.
-/

import Mathlib.Logic.Basic
import TemplateEngine.Proofs.Grammar.Stays

namespace TemplateEngine.Grammar

open Scan TemplateEngine.Except
open Operator (Level)

variable {expr primary operand : Rule Expr} {s rest : List Char} {x : Expr}

theorem orElse_eq_some_iff {α : Type} {first second : Rule α} (hfirst : Stays first) {a : α} :
    orElse first second s = .ok (some a, rest) ↔
      first s = .ok (some a, rest) ∨ first s = .ok (none, s) ∧ second s = .ok (some a, rest) := by
  simp only [orElse, bind_eq_ok, Prod.exists, Option.exists, pure_eq_ok, hfirst.exists_none_iff]
  grind

theorem required_eq_ok_iff {rule : Rule Expr} :
    required rule s = .ok (x, rest) ↔ rule s = .ok (some x, rest) := by
  simp [required, bind_eq_ok, Option.exists, pure_eq_ok, throw_ne_ok]

theorem requiredSymbol_eq_ok_iff {text : String} {start : List Char} {r : List Char} :
    requiredSymbol text start s = .ok r ↔ symbol? text s = some r := by
  unfold requiredSymbol
  cases symbol? text s <;> simp

theorem level_eq_some_iff {l : Level} :
    level l operand s = .ok (some x, rest) ↔
      ∃ first r more, operand s = .ok (some first, r) ∧
        chainTail l.operators operand r.length r = .ok (more, rest) ∧ joined first more = x := by
  simp [level, bind_eq_ok, Option.exists, Prod.exists, pure_eq_ok, map_eq_ok]

theorem negatable_eq_some_iff :
    negatable operand s = .ok (some x, rest) ↔
      (keyword? "not" s = none ∧ operand s = .ok (some x, rest)) ∨
      ∃ r e, keyword? "not" s = some r ∧ operand r = .ok (some e, rest) ∧ Expr.not e = x := by
  unfold negatable
  cases hnot : keyword? "not" s <;>
    simp [bind_eq_ok, Option.exists, Prod.exists, pure_eq_ok, throw_ne_ok]

theorem enclosed_eq_some_iff {opening closing : String} {items : List Expr} :
    enclosed opening closing expr s = .ok (some items, rest) ↔
      ∃ r, symbol? opening s = some r ∧
        (([] = items ∧ symbol? closing r = some rest) ∨
        (symbol? closing r = none ∧ ∃ first r' more r'', expr r = .ok (some first, r') ∧
          afterCommas expr r'.length r' = .ok (more, r'') ∧ symbol? closing r'' = some rest ∧
            first :: more = items)) := by
  unfold enclosed
  cases hopen : symbol? opening s with
  | none => simp
  | some r =>
    cases hclose : symbol? closing r <;>
      simp [hclose, bind_eq_ok, Prod.exists, map_eq_ok, required_eq_ok_iff, requiredSymbol_eq_ok_iff]

theorem fixedKey_eq_some_iff {key : String} :
    fixedKey s = .ok (some key, rest) ↔
      ∃ r r', symbol? "[" s = some r ∧ string? r = .ok (some key, r') ∧
        symbol? "]" (skipSpacing r') = some rest := by
  unfold fixedKey
  cases hopen : symbol? "[" s with
  | none => simp
  | some r =>
    simp only [bind_eq_ok, Prod.exists, Option.exists, pure_eq_ok, Option.some.injEq]
    constructor
    · rintro (⟨r', -, h⟩ | ⟨text, r', hstring, h⟩)
      · cases h
      · cases hclose : symbol? "]" (skipSpacing r') with
        | none => simp [hclose, pure_eq_ok] at h
        | some r'' =>
          simp only [hclose, pure_eq_ok, Prod.mk.injEq, Option.some.injEq] at h
          obtain ⟨rfl, rfl⟩ := h
          exact ⟨r, r', rfl, hstring, hclose⟩
    · rintro ⟨_, r', rfl, hstring, hclose⟩
      exact .inr ⟨key, r', hstring, by simp only [hclose]; rfl⟩

theorem range?_eq_some_iff {α : Type} {bound : List Char → Option (α × List Char)} {first last : α} :
    range? bound s = some ((first, last), rest) ↔
      ∃ r r' r'', bound s = some (first, r) ∧ symbol? ".." (skipSpacing r) = some r' ∧
        bound r' = some (last, r'') ∧ skipSpacing r'' = rest := by
  simp [range?, Option.bind_eq_some_iff]

theorem listLiteral_eq_some_iff :
    listLiteral expr s = .ok (some x, rest) ↔
      (∃ first last, range? integer? s = some ((first, last), rest) ∧ Expr.intRange first last = x) ∨
      (range? integer? s = none ∧
        ((∃ first last, range? letter? s = some ((first, last), rest) ∧ Expr.charRange first last = x) ∨
        (range? letter? s = none ∧
          ∃ items, enclosed "[" "]" expr s = .ok (some items, rest) ∧ Expr.list items = x))) := by
  rw [listLiteral_eq]
  cases hnumber : range? integer? s with
  | some found =>
    obtain ⟨⟨first, last⟩, r⟩ := found
    simp
    grind
  | none =>
    cases hletter : range? letter? s with
    | some found =>
      obtain ⟨⟨first, last⟩, r⟩ := found
      simp
      grind
    | none => simp [map_eq_ok, Prod.exists]

theorem mapKey_eq_some_iff {key : String} :
    mapKey s = .ok (some key, rest) ↔
      identifier? s = some (key, rest) ∨ identifier? s = none ∧ string? s = .ok (some key, rest) := by
  unfold mapKey
  cases identifier? s <;> simp [Prod.ext_iff]

theorem mapEntries_succ_iff {start : List Char} {n : Nat} {entries : List (String × Expr)} :
    mapEntries expr start (n + 1) s = .ok (entries, rest) ↔
      ∃ key r r' e r'', mapKey s = .ok (some key, r) ∧ symbol? ":" (skipSpacing r) = some r' ∧
        expr r' = .ok (some e, r'') ∧
        ((symbol? "," r'' = none ∧ symbol? "\x7d" r'' = some rest ∧ [(key, e)] = entries) ∨
        ∃ r₃ more, symbol? "," r'' = some r₃ ∧ mapEntries expr start n r₃ = .ok (more, rest) ∧
          (key, e) :: more = entries) := by
  rw [mapEntries]
  simp [bind_eq_ok, Option.exists, Prod.exists, throw_ne_ok, requiredSymbol_eq_ok_iff, required_eq_ok_iff]
  refine exists_congr fun key => exists_congr fun r => and_congr_right fun _ => exists_congr fun r' =>
    and_congr_right fun _ => exists_congr fun e => exists_congr fun r'' => and_congr_right fun _ => ?_
  cases symbol? "," r'' <;> simp [Prod.exists, map_eq_ok, requiredSymbol_eq_ok_iff]

theorem mapLiteral_eq_some_iff :
    mapLiteral expr s = .ok (some x, rest) ↔
      ∃ r, symbol? "\x7b" s = some r ∧
        ((symbol? "\x7d" r = some rest ∧ Expr.map [] = x) ∨
        (symbol? "\x7d" r = none ∧ ∃ entries, mapEntries expr s (r.length + 1) r = .ok (entries, rest) ∧
          Expr.map entries = x)) := by
  unfold mapLiteral
  cases hopen : symbol? "\x7b" s with
  | none => simp
  | some r => cases hclose : symbol? "\x7d" r <;> simp [hclose, Prod.exists, map_eq_ok, and_comm]

theorem scalar_eq_some_iff {l : Literal} :
    scalar s = .ok (some l, rest) ↔
      (string? s = .ok (none, s) ∧
        ((keyword? "true" s = some rest ∧ Literal.bool true = l) ∨ (keyword? "true" s = none ∧
        ((keyword? "false" s = some rest ∧ Literal.bool false = l) ∨ (keyword? "false" s = none ∧
        ((∃ x r, double? s = some (x, r) ∧ Literal.float x = l ∧ skipSpacing r = rest) ∨ (double? s = none ∧
        ((∃ n r, integer? s = some (n, r) ∧ Literal.int n = l ∧ skipSpacing r = rest) ∨ (integer? s = none ∧
        keyword? "null" s = some rest ∧ Literal.null = l))))))))) ∨
      ∃ text r, string? s = .ok (some text, r) ∧ Literal.string text = l ∧ skipSpacing r = rest := by
  have hquoted : quotedLiteral s = .ok (some l, rest) ↔
      ∃ text r, string? s = .ok (some text, r) ∧ Literal.string text = l ∧ skipSpacing r = rest := by
    simp [quotedLiteral, bind_eq_ok, Option.exists, Prod.exists, pure_eq_ok]
  have hquoted' : quotedLiteral s = .ok (none, s) ↔ string? s = .ok (none, s) := by
    simp [quotedLiteral, bind_eq_ok, Option.exists, Prod.exists, pure_eq_ok]
  have hword (word : String) (l' : Literal) : wordLiteral word l' s = .ok (some l, rest) ↔
      keyword? word s = some rest ∧ l' = l := by
    unfold wordLiteral
    cases keyword? word s <;> simp [and_comm]
  have hword' (word : String) (l' : Literal) : wordLiteral word l' s = .ok (none, s) ↔ keyword? word s = none := by
    unfold wordLiteral
    cases keyword? word s <;> simp
  have hnumeral {α : Type} {scan : Scanner α} {scan? : List Char → Option (α × List Char)}
      (heq : ∀ s, scan s = stay scan? s) (make : α → Literal) : numeral scan make s = .ok (some l, rest) ↔
        ∃ x r, scan? s = some (x, r) ∧ make x = l ∧ skipSpacing r = rest := by
    rw [numeral, heq, stay]
    cases scan? s <;> simp [Prod.ext_iff, and_assoc]
  have hnumeral' {α : Type} {scan : Scanner α} {scan? : List Char → Option (α × List Char)}
      (heq : ∀ s, scan s = stay scan? s) (make : α → Literal) :
      numeral scan make s = .ok (none, s) ↔ scan? s = none := by
    rw [numeral, heq, stay]
    cases scan? s <;> simp
  rw [scalar, orElse_eq_some_iff quotedLiteral_stays, orElse_eq_some_iff (wordLiteral_stays _ _),
    orElse_eq_some_iff (wordLiteral_stays _ _), orElse_eq_some_iff (numeral_stays double_eq _),
    orElse_eq_some_iff (numeral_stays integer_eq _), hquoted, hquoted', hword, hword, hword, hword', hword',
    hnumeral double_eq, hnumeral' double_eq, hnumeral integer_eq, hnumeral' integer_eq]
  exact or_comm

theorem literal_eq_some_iff :
    literal s = .ok (some x, rest) ↔ ∃ l, scalar s = .ok (some l, rest) ∧ Expr.literal l = x := by
  simp [literal, map_eq_ok, Prod.exists]

theorem called_eq_some_iff {name : String} :
    called expr name s = .ok (some x, rest) ↔
      (∃ args, arguments expr s = .ok (some args, rest) ∧ Expr.call name args = x) ∨
      (arguments expr s = .ok (none, s) ∧ skipSpacing s = rest ∧ Expr.var name = x) := by
  have hargs : Stays (arguments expr) := enclosed_stays expr "(" ")"
  simp only [called, bind_eq_ok, Prod.exists, Option.exists, pure_eq_ok, Prod.mk.injEq, Option.some.injEq,
    hargs.exists_none_iff]
  grind

theorem functionReference_eq_some_iff :
    functionReference expr s = .ok (some x, rest) ↔
      ∃ name r, identifier? s = some (name, r) ∧
        ((∃ args, arguments expr r = .ok (some args, rest) ∧ Expr.call name args = x) ∨
        (arguments expr r = .ok (none, r) ∧ skipSpacing r = rest ∧ Expr.var name = x)) := by
  unfold functionReference
  cases hname : identifier? s with
  | none => simp
  | some found => simp [called_eq_some_iff, Prod.ext_iff]

theorem selectionStep_eq_some_iff :
    selectionStep expr s = .ok (some x, rest) ↔
      ∃ name r, identifier? s = some (name, r) ∧
        ((∃ key, fixedKey r = .ok (some key, rest) ∧ Expr.entry name key = x) ∨
        (fixedKey r = .ok (none, r) ∧ functionReference expr s = .ok (some x, rest))) := by
  unfold selectionStep functionReference
  cases hname : identifier? s with
  | none => simp
  | some found =>
    simp only [bind_eq_ok, Prod.exists, Option.exists, pure_eq_ok, fixedKey_stays.exists_none_iff]
    grind

theorem named_eq_some_iff :
    named primary expr s = .ok (some x, rest) ↔
      ∃ name r, identifier? s = some (name, r) ∧
        ((∃ key, fixedKey r = .ok (some key, rest) ∧ Expr.entry name key = x) ∨
        (fixedKey r = .ok (none, r) ∧
          ((∃ args, arguments expr r = .ok (some args, rest) ∧ Expr.call name args = x) ∨
          (arguments expr r = .ok (none, r) ∧
            (((skipSpacing r).head? = some '-' ∨ ∃ r', primary (skipSpacing r) = .ok (none, r')) ∧
                skipSpacing r = rest ∧ Expr.var name = x ∨
              ((skipSpacing r).head? ≠ some '-' ∧ ∃ argument,
                primary (skipSpacing r) = .ok (some argument, rest) ∧
                  Expr.call name [argument] = x)))))) := by
  unfold named
  cases hname : identifier? s with
  | none => simp
  | some found =>
    obtain ⟨name, r⟩ := found
    have hargs : Stays (arguments expr) := enclosed_stays expr "(" ")"
    simp only [bind_eq_ok, Prod.exists, Option.exists, pure_eq_ok, fixedKey_stays.exists_none_iff,
      hargs.exists_none_iff]
    by_cases hminus : (skipSpacing r).head? = some '-'
    · simp [pure_eq_ok, hminus]; grind
    · simp [bind_eq_ok, Option.exists, Prod.exists, pure_eq_ok, hminus]; grind

theorem parenthesized_eq_some_iff :
    parenthesized expr s = .ok (some x, rest) ↔
      ∃ r r', symbol? "(" s = some r ∧ expr r = .ok (some x, r') ∧ symbol? ")" r' = some rest := by
  unfold parenthesized
  cases hopen : symbol? "(" s <;>
    simp [bind_eq_ok, Prod.exists, map_eq_ok, required_eq_ok_iff, requiredSymbol_eq_ok_iff]

theorem behind_eq_some_iff {rule : Rule Expr} {extend : Expr → List Char → Except Fault (Expr × List Char)} :
    behind rule extend s = .ok (some x, rest) ↔
      ∃ e r, rule s = .ok (some e, r) ∧ extend e r = .ok (x, rest) := by
  simp [behind, bind_eq_ok, Option.exists, Prod.exists, pure_eq_ok, map_eq_ok]

theorem withSteps_eq_ok_iff {base : Expr} :
    withSteps expr base s = .ok (x, rest) ↔
      ∃ steps, parts point? (selectionStep expr) s.length s = .ok (steps, rest) ∧
        (if steps.isEmpty then base else .select base steps) = x := by
  simp [withSteps, Prod.exists, map_eq_ok]

theorem withStages_eq_ok_iff {base : Expr} :
    withStages expr base s = .ok (x, rest) ↔
      ∃ stages, parts (symbol? "|") (functionReference expr) s.length s = .ok (stages, rest) ∧
        (if stages.isEmpty then base else .pipe base stages) = x := by
  simp [withStages, Prod.exists, map_eq_ok]

theorem ternaryRule_eq_some_iff :
    ternaryRule primary expr s = .ok (some x, rest) ↔
      ∃ condition r, primary s = .ok (some condition, r) ∧
        ((symbol? "?" r = none ∧ r = rest ∧ condition = x) ∨
        ∃ r' yes r'' r₃ no, symbol? "?" r = some r' ∧ expr r' = .ok (some yes, r'') ∧
          symbol? ":" r'' = some r₃ ∧ expr r₃ = .ok (some no, rest) ∧
            Expr.ternary condition yes no = x) := by
  simp [ternaryRule, bind_eq_ok, Option.exists, Prod.exists, pure_eq_ok]
  refine exists_congr fun condition => exists_congr fun r => and_congr_right fun _ => ?_
  cases symbol? "?" r <;>
    simp [bind_eq_ok, Prod.exists, pure_eq_ok, map_eq_ok, required_eq_ok_iff, requiredSymbol_eq_ok_iff]
  grind

end TemplateEngine.Grammar

namespace TemplateEngine

open TemplateEngine.Except

/-- An expression that stands alone is read up to the end of its text. -/
theorem Expr.parse_eq_ok_iff {source : String} {e : Expr} :
    Expr.parse source = .ok e ↔
      Grammar.expression (Scan.skipSpacing source.toList) = .ok (some e, []) := by
  simp only [Expr.parse, mapError_eq_ok, bind_eq_ok, Prod.exists, Grammar.required_eq_ok_iff]
  constructor
  · rintro ⟨found, rest, hread, h⟩
    cases rest with
    | nil => obtain rfl := Except.ok.inj h; exact hread
    | cons c rest => cases h
  · intro h
    exact ⟨e, [], h, rfl⟩

end TemplateEngine
