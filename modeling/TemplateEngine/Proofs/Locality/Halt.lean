/-
  TemplateEngine.Proofs.Locality.Halt — where an expression ends in front of one text and in
  front of another.

  A rule that has read an expression looks at what follows and finds nothing to go on with.
  `Halts q t` says that it finds nothing in `t` either, of whatever kind it found nothing in
  `q`. Whether an expression starts at all does not depend on what is read inside it
  (`absent_of_none`), so that nothing has to be known of the rules that are tried there.

  Proved:
  - `absent_of_none`: where a rule reads nothing, no rule as tight reads anything.
  - `Halts.closer`, `Halts.choice`, `Halts.pipe`, `Halts.point`, `Halts.operator`: the marks
    behind an expression, each with what has to be known about its own kind only.
-/

import TemplateEngine.Proofs.Grammar.Follow
import TemplateEngine.Proofs.Grammar.Yield
import TemplateEngine.Proofs.Scan.Swap

namespace TemplateEngine.Grammar

open Scan TemplateEngine.Except
open Operator (Level)

variable {primary expr : Rule Expr} {s : List Char}

/-! ## Where no expression starts -/

theorem orElse_eq_none_iff {α : Type} {first second : Rule α} (hfirst : Stays first) :
    orElse first second s = .ok (none, s) ↔ first s = .ok (none, s) ∧ second s = .ok (none, s) := by
  simp [orElse, bind_eq_ok, Prod.exists, Option.exists, pure_eq_ok, hfirst.exists_none_iff]

theorem parenthesized_eq_none_iff : parenthesized expr s = .ok (none, s) ↔ symbol? "(" s = none := by
  unfold parenthesized
  cases symbol? "(" s <;> simp [bind_eq_ok, map_eq_ok]

theorem enclosed_eq_none_iff {opening closing : String} :
    enclosed opening closing expr s = .ok (none, s) ↔ symbol? opening s = none := by
  unfold enclosed
  cases symbol? opening s with
  | none => simp
  | some r => cases hclose : symbol? closing r <;> simp [hclose, bind_eq_ok, map_eq_ok]

theorem listLiteral_eq_none_iff :
    listLiteral expr s = .ok (none, s) ↔
      range? integer? s = none ∧ range? letter? s = none ∧ symbol? "[" s = none := by
  rw [listLiteral_eq]
  cases range? integer? s with
  | some found => simp
  | none =>
    cases range? letter? s with
    | some found => simp
    | none => simp [map_eq_ok, Prod.exists, enclosed_eq_none_iff]

theorem mapLiteral_eq_none_iff : mapLiteral expr s = .ok (none, s) ↔ symbol? "\x7b" s = none := by
  unfold mapLiteral
  cases symbol? "\x7b" s with
  | none => simp
  | some r => cases hclose : symbol? "\x7d" r <;> simp [hclose, map_eq_ok]

theorem functionReference_eq_none_iff : functionReference expr s = .ok (none, s) ↔ identifier? s = none := by
  unfold functionReference
  cases identifier? s <;> simp [called_ne_none]

theorem selectionStep_eq_none_iff : selectionStep expr s = .ok (none, s) ↔ identifier? s = none := by
  unfold selectionStep
  cases hname : identifier? s with
  | none => simp
  | some found => simp [bind_eq_ok, Prod.exists, Option.exists, pure_eq_ok, called_ne_none]

theorem named_eq_none_iff : named primary expr s = .ok (none, s) ↔ identifier? s = none :=
  ⟨fun h => (named_none primary expr h).1, fun h => by rw [named, h]⟩

theorem loosen_eq_none_iff {k : Nat} {tighter : Rule Expr} :
    loosen expr k tighter s = .ok (none, s) ↔ tighter s = .ok (none, s) ∧ (k = 5 → keyword? "not" s = none) := by
  have hbehind : ∀ extend, behind tighter extend s = .ok (none, s) ↔ tighter s = .ok (none, s) := by
    simp +contextual [behind, bind_eq_ok, Option.exists, pure_eq_ok, map_eq_ok]
  have hlevel : ∀ l, level l tighter s = .ok (none, s) ↔ tighter s = .ok (none, s) := by
    simp [level, bind_eq_ok, Option.exists, pure_eq_ok, map_eq_ok]
  have hchoice : ternaryRule tighter expr s = .ok (none, s) ↔ tighter s = .ok (none, s) := by
    refine ⟨fun h => ?_, fun h => by rw [ternaryRule, h]; rfl⟩
    obtain ⟨⟨found, rest⟩, hfound, h⟩ := bind_eq_ok.mp h
    cases found with
    | none =>
      obtain rfl := rest_of_none h
      exact hfound
    | some condition =>
      cases hmark : symbol? "?" rest <;>
        simp [hmark, bind_eq_ok, pure_eq_ok, map_eq_ok] at h
  have hnegatable : negatable tighter s = .ok (none, s) ↔ tighter s = .ok (none, s) ∧ keyword? "not" s = none := by
    unfold negatable
    cases keyword? "not" s <;> simp [bind_eq_ok, Option.exists, pure_eq_ok, throw_ne_ok]
  unfold loosen
  split <;> simp_all

theorem basic_absent_of_none (h : basic primary expr s = .ok (none, s)) (primary' expr' : Rule Expr) :
    basic primary' expr' s = .ok (none, s) := by
  obtain ⟨hlist, h⟩ := (orElse_eq_none_iff (listLiteral_stays expr)).mp h
  obtain ⟨hmap, h⟩ := (orElse_eq_none_iff (mapLiteral_stays expr)).mp h
  obtain ⟨hliteral, hnamed⟩ := (orElse_eq_none_iff literal_stays).mp h
  rw [basic, orElse_of_absent (listLiteral_eq_none_iff.mpr (listLiteral_eq_none_iff.mp hlist)),
    orElse_of_absent (mapLiteral_eq_none_iff.mpr (mapLiteral_eq_none_iff.mp hmap)), orElse_of_absent hliteral]
  exact named_eq_none_iff.mpr (named_eq_none_iff.mp hnamed)

/-- No expression this tight starts here, whatever is read inside it. -/
def Absent (k : Nat) (s : List Char) : Prop := ∀ primary expr, ruleOf primary expr k s = .ok (none, s)

theorem absent_of_none {k : Nat} (h : ruleOf primary expr k s = .ok (none, s)) : Absent k s := by
  intro primary' expr'
  induction k with
  | zero =>
    obtain ⟨hparen, hbasic⟩ := (orElse_eq_none_iff (parenthesized_stays expr)).mp h
    rw [ruleOf, orElse_of_absent (parenthesized_eq_none_iff.mpr (parenthesized_eq_none_iff.mp hparen))]
    exact basic_absent_of_none hbasic primary' expr'
  | succ k ih =>
    obtain ⟨htighter, hnot⟩ := loosen_eq_none_iff.mp h
    exact loosen_eq_none_iff.mpr ⟨ih htighter, hnot⟩

theorem absent_of_stops (h : Stops startsBase s) (k : Nat) : Absent k s := fun _ _ =>
  ruleOf_absent (base_absent_of_stops h) fun _ => keyword?_of_stops "not" h rfl

/-! ## What goes on with an expression -/

/-- No step starts here. -/
def NoStep (s : List Char) : Prop := ∀ after, point? s = some after → identifier? after = none

/-- No stage starts here. -/
def NoStage (s : List Char) : Prop := ∀ after, symbol? "|" s = some after → identifier? after = none

/-- No operator of the level stands here with an operand behind it. -/
def NoOperator (l : Level) (s : List Char) : Prop :=
  ∀ op after, operator? l.operators s = some (op, after) → Absent (l.looseness - 1) after

/-- An expression that ends in front of `q` ends in front of `t`. -/
structure Halts (q t : List Char) : Prop where
  word : SameWord q t
  bracket : Stops (fun c => c == '(' || c == '[') t
  fraction : ∀ places, mark? "." t = some places → Stops isDigit places
  range : mark? ".." (skipSpacing t) = none
  argument : (skipSpacing t).head? = some '-' ∨ Absent 2 (skipSpacing t)
  step : NoStep q → NoStep (skipSpacing t)
  stage : NoStage q → NoStage (skipSpacing t)
  choice : symbol? "?" q = none → symbol? "?" (skipSpacing t) = none
  operator : ∀ l, NoOperator l q → NoOperator l (skipSpacing t)

theorem noOperator_of_stops (h : Stops carriesOn s) (l : Level) : NoOperator l s := by
  intro op after hop
  rw [operator?_of_stops h] at hop
  cases hop

theorem noStep_of_stops (h : Stops (· == '.') s) : NoStep s := by
  intro after hpoint
  rw [point?, symbol?_of_stops h rfl] at hpoint
  split at hpoint <;> cases hpoint

theorem noStage_of_stops (h : Stops (· == '|') s) : NoStage s := by
  intro after hmark
  rw [symbol?_of_stops h rfl] at hmark
  cases hmark

namespace Halts

variable {q t : List Char}

/-- No step starts where no point stands. -/
theorem of_pointless (ht : Unspaced t) (hword : SameWord q t)
    (hbracket : Stops (fun c => c == '(' || c == '[') t) (hpoint : Stops (· == '.') t)
    (hargument : t.head? = some '-' ∨ Absent 2 t) (hstage : NoStage q → NoStage t)
    (hchoice : symbol? "?" q = none → symbol? "?" t = none)
    (hoperator : ∀ l, NoOperator l q → NoOperator l t) : Halts q t := by
  have hskip := skipSpacing_of_unspaced ht
  refine ⟨hword, hbracket, fun places h => ?_, ?_, ?_, fun _ => ?_, ?_, ?_, ?_⟩
  · rw [mark?_of_stops hpoint rfl] at h
    cases h
  all_goals rw [hskip]
  · exact mark?_of_stops hpoint rfl
  · exact hargument
  · exact noStep_of_stops hpoint
  · exact hstage
  · exact hchoice
  · exact hoperator

/-- A mark that is no operator and is only looked for where it stands. -/
theorem of_mark {c : Char} (rest : List Char)
    (hc : (!startsBase c && !isLetterOrDigit c && !isSpace c && c != '.') = true)
    (hstage : NoStage q → NoStage (c :: rest))
    (hchoice : symbol? "?" q = none → symbol? "?" (c :: rest) = none)
    (hoperator : ∀ l, NoOperator l q → NoOperator l (c :: rest)) : Halts q (c :: rest) := by
  simp only [Bool.and_eq_true, Bool.not_eq_true', bne_iff_ne] at hc
  obtain ⟨⟨⟨hbase, hletter⟩, hspace⟩, hpoint⟩ := hc
  have hbrace : c ≠ '\x7b' := by
    rintro rfl
    exact absurd hbase (by decide)
  refine of_pointless (.cons rest hspace hbrace) (fun d hd hletter' => ?_) ?_
    (Stops.cons (by simpa using hpoint)) (.inr (absent_of_stops (Stops.cons hbase) 2)) hstage hchoice hoperator
  · obtain rfl := Option.some.inj hd
    exact Bool.noConfusion (hletter.symm.trans hletter')
  · refine (Stops.cons hbase : Stops startsBase (c :: rest)).mono fun d hd => ?_
    simp only [Bool.or_eq_true, beq_iff_eq] at hd
    rcases hd with rfl | rfl <;> rfl

theorem closer {c : Char} (hc : closes c = true) (q rest : List Char) : Halts q (c :: rest) := by
  have hall : ([')', ']', '\x7d', ',', ':'].all fun c =>
      !startsBase c && !isLetterOrDigit c && !isSpace c && c != '.') = true := by decide
  have hstops : Stops carriesOn (c :: rest) := Stops.cons (closes_apart hc).2.2.2.2
  exact of_mark rest (List.all_eq_true.mp hall c (List.contains_iff_mem.mp hc))
    (fun _ => noStage_of_stops (hstops.char rfl)) (fun _ => symbol?_of_stops hstops rfl)
    fun l _ => noOperator_of_stops hstops l

theorem nil (q : List Char) : Halts q [] :=
  of_pointless .nil nofun nofun nofun (.inr (absent_of_stops Stops.nil 2))
    (fun _ => noStage_of_stops Stops.nil) (fun _ => rfl) fun l _ => noOperator_of_stops Stops.nil l

/-- No operator starts as stages and choices do. -/
theorem operator?_of_mark {c : Char} (hc : c = '|' ∨ c = '?' ∨ c = '.') (rest : List Char) (l : Level) :
    operator? l.operators (c :: rest) = none := by
  rcases hc with rfl | rfl | rfl <;> cases l <;> rfl

theorem noOperator_of_mark {c : Char} (hc : c = '|' ∨ c = '?' ∨ c = '.') (rest : List Char) (l : Level) :
    NoOperator l (c :: rest) := by
  intro op after h
  rw [operator?_of_mark hc] at h
  cases h

theorem question (h : symbol? "?" q ≠ none) (rest : List Char) : Halts q ('?' :: rest) :=
  of_mark rest (by decide) (fun _ => noStage_of_stops (Stops.cons rfl)) (fun hnone => absurd hnone h)
    fun l _ => noOperator_of_mark (.inr (.inl rfl)) rest l

theorem pipe {rest : List Char} (h : NoStage q → NoStage ('|' :: rest)) : Halts q ('|' :: rest) :=
  of_mark rest (by decide) h (fun _ => symbol?_of_stops (p := (· == '?')) (Stops.cons rfl) rfl)
    fun l _ => noOperator_of_mark (.inl rfl) rest l

/-- An operator, with whatever is behind it. -/
theorem sign {op : Operator} {rest : List Char} (hword : SameWord q (op.symbol.toList ++ rest))
    (hrest : op.isWord = true → Stops isLetterOrDigit rest)
    (h : NoOperator op.level q → NoOperator op.level (op.symbol.toList ++ rest)) :
    Halts q (op.symbol.toList ++ rest) := by
  have hfirm := firm_of_startsFirm (startsFirm_symbol op)
  have hstops : Stops (fun c => c == '.' || c == '|' || c == '?' || c == '(' || c == '[')
      (op.symbol.toList ++ rest) := by
    cases op <;> exact Stops.cons rfl
  have hargument : (op.symbol.toList ++ rest).head? = some '-' ∨ Absent 2 (op.symbol.toList ++ rest) := by
    by_cases hop : op.isWord = true
    · have hliteral : op.symbol ∉ ["true", "false", "null"] := by cases op <;> decide
      exact .inr fun _ _ => ruleOf_absent
        (base_absent_of_keyword _ (keyword_of_isWord hop) hliteral (hrest hop)) fun hk => absurd hk (by decide)
    · cases op with
      | subtract => exact .inl rfl
      | startsWith | endsWith | matching | isIn | or | and => exact absurd rfl hop
      | _ => exact .inr (absent_of_stops (Stops.cons rfl) 2)
  refine of_pointless (hfirm rest) hword (hstops.mono fun c hc => ?_) (hstops.char rfl) hargument
    (fun _ => noStage_of_stops (hstops.char rfl)) (fun _ => symbol?_of_stops hstops rfl) fun l hl => ?_
  · simp only [Bool.or_eq_true] at hc ⊢
    exact hc.elim (fun h => .inl (.inr h)) .inr
  · by_cases hlevel : l = op.level
    · exact hlevel ▸ h (hlevel ▸ hl)
    · intro other after hother
      have hnone : operator? l.operators (op.symbol.toList ++ rest) = none := by
        cases op <;> cases l <;> first | rfl | exact absurd rfl hlevel
      rw [hnone] at hother
      cases hother

/-- A point with a step behind it. -/
theorem point {rest : List Char} (hq : ¬ NoStep q) (hrange : mark? ".." ('.' :: rest) = none)
    (hdigit : Stops isDigit rest) : Halts q ('.' :: rest) := by
  have hskip : skipSpacing ('.' :: rest) = '.' :: rest := skipSpacing_of_unspaced (.cons rest rfl (by decide))
  refine ⟨?_, Stops.cons rfl, fun places h => ?_, ?_, ?_, fun hstep => absurd hstep hq, ?_, ?_, ?_⟩
  · intro c hc hletter
    obtain rfl := Option.some.inj hc
    exact absurd hletter (by decide)
  · obtain rfl := Option.some.inj (h.symm.trans (mark?_append "." rest))
    exact hdigit
  all_goals rw [hskip]
  · exact hrange
  · exact .inr (absent_of_stops (Stops.cons rfl) 2)
  · exact fun _ => noStage_of_stops (Stops.cons rfl)
  · exact fun _ => symbol?_of_stops (p := (· == '?')) (Stops.cons rfl) rfl
  · exact fun l _ => noOperator_of_mark (.inr (.inr rfl)) rest l

/-- Spacing in between changes nothing. -/
theorem spaced {w : List Char} (hw : Spacing w) (h : Halts q t) : Halts q (w ++ t) := by
  have hskip := skipSpacing_append hw t
  refine ⟨hw.sameWord h.word, hw.stops (fun c hc => ?_) h.bracket, fun places hmark => ?_,
    hskip ▸ h.range, hskip ▸ h.argument, hskip ▸ h.step, hskip ▸ h.stage, hskip ▸ h.choice,
    hskip ▸ h.operator⟩
  · simp only [Bool.or_eq_true, beq_iff_eq] at hc
    rcases hc with rfl | rfl <;> exact ⟨rfl, by decide⟩
  · cases w with
    | nil => exact h.fraction places hmark
    | cons c w =>
      have hpoint : Stops (· == '.') ((c :: w) ++ []) := hw.stops (fun c hc => by
        rw [eq_of_beq hc]
        exact ⟨rfl, by decide⟩) Stops.nil
      have hstops : Stops (· == '.') ((c :: w) ++ t) := Stops.cons (hpoint c rfl)
      rw [mark?_of_stops hstops rfl] at hmark
      cases hmark

end Halts

end TemplateEngine.Grammar
