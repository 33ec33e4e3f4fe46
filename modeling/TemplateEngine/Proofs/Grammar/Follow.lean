/-
  TemplateEngine.Proofs.Grammar.Follow — what may stand before and behind an expression.

  A rule that has read an expression tries to go on: with an argument, a step, a stage, a
  choice, an operator. `Follows bound rest` says that it finds nothing of the kind in
  `rest`, up to the looseness `bound`. The rules up to there then stop at the same place
  (`ruleUpTo_passes`).
-/

import TemplateEngine.Proofs.Grammar.Loops

namespace TemplateEngine.Grammar

open Scan

/-! ## Before an expression -/

/-- The characters that a base starts with. -/
def startsBase (c : Char) : Bool := isLetter c || opensBase c

/-- A base may start here: no blank, no comment and nothing that closes or goes on. -/
def Begins (s : List Char) : Prop :=
  ∃ c t, s = c :: t ∧ startsBase c = true ∧ (c = '\x7b' → t.head? ≠ some '#')

theorem Begins.cons {c : Char} (h : startsBase c = true) (hc : c ≠ '\x7b') (t : List Char) :
    Begins (c :: t) :=
  ⟨c, t, rfl, h, fun he => absurd he hc⟩

theorem Begins.unspaced {s : List Char} (h : Begins s) : Unspaced s := by
  obtain ⟨c, t, rfl, hc, hbrace⟩ := h
  have hspace : isSpace c = false := by
    refine Bool.eq_false_iff.mpr fun hs => ?_
    simp only [isSpace, Bool.or_eq_true, beq_iff_eq] at hs
    rcases hs with (((rfl | rfl) | rfl) | rfl) | rfl <;> exact absurd hc (by decide)
  by_cases he : c = '\x7b'
  · refine ⟨fun _ hx => Option.some.inj hx ▸ hspace, ?_⟩
    unfold comment?
    split
    · rename_i body hbody
      exact absurd (congrArg List.head? (List.cons.inj hbody).2) (hbrace he)
    · rfl
  · exact Unspaced.cons t hspace he

theorem Begins.symbol?_eq_none {s : List Char} (h : Begins s) {text : String}
    (ht : text.toList.head?.any (!startsBase ·) = true) : symbol? text s = none := by
  obtain ⟨c, t, rfl, hc, -⟩ := h
  exact symbol?_of_stops (Stops.cons (by simp [hc])) ht

theorem Begins.skipSpacing_space {s : List Char} (h : Begins s) : skipSpacing (' ' :: s) = s := by
  rw [Scan.skipSpacing_space rfl, skipSpacing_of_unspaced h.unspaced]

theorem Begins.symbol?_append {s : List Char} (h : Begins s) (text : String) :
    symbol? text (text.toList ++ s) = some s := by
  rw [Scan.symbol?_append, skipSpacing_of_unspaced h.unspaced]

theorem Begins.symbol?_space {s : List Char} (h : Begins s) (text : String) :
    symbol? text (text.toList ++ ' ' :: s) = some s := by
  rw [Scan.symbol?_append, h.skipSpacing_space]

/-! ## Behind an expression -/

/-- The characters that join what stands before them. -/
def joins (c : Char) : Bool := isLetterOrDigit c || c == '(' || c == '['

/-- Nothing here carries on an expression, up to a looseness. -/
structure Follows (bound : Nat) (rest : List Char) : Prop where
  word : Stops joins rest
  fraction : ∀ places, mark? "." rest = some places → Stops isDigit places
  range : mark? ".." (skipSpacing rest) = none
  argument : (skipSpacing rest).head? = some '-' ∨
    ∀ n, primaryUpTo n (skipSpacing rest) = .ok (none, skipSpacing rest)
  step : 1 ≤ bound → ∀ expr after, point? (skipSpacing rest) = some after →
    selectionStep expr after = .ok (none, after)
  stage : 2 ≤ bound → ∀ expr after, symbol? "|" (skipSpacing rest) = some after →
    functionReference expr after = .ok (none, after)
  choice : 3 ≤ bound → symbol? "?" (skipSpacing rest) = none
  operator : ∀ l : Operator.Level, l.looseness ≤ bound → ∀ op after,
    operator? l.operators (skipSpacing rest) = some (op, after) →
      ∀ n, ruleUpTo n (l.looseness - 1) after = .ok (none, after)

theorem Follows.mono {bound bound' : Nat} {rest : List Char} (h : Follows bound' rest)
    (hle : bound ≤ bound') : Follows bound rest :=
  { h with
    step := fun hb => h.step (Nat.le_trans hb hle)
    stage := fun hb => h.stage (Nat.le_trans hb hle)
    choice := fun hb => h.choice (Nat.le_trans hb hle)
    operator := fun l hl => h.operator l (Nat.le_trans hl hle) }

theorem base_absent_of_stops {primary expr : Rule Expr} {s : List Char} (h : Stops startsBase s) :
    ruleOf primary expr 0 s = .ok (none, s) := by
  have hletter : Stops isLetter s := h.mono fun c hc => by simp [startsBase, hc]
  refine base_absent (h.mono fun c hc => by simp [startsBase, hc]) (identifier?_of_stops hletter) ?_
  exact fun word hword => keyword?_of_stops word hletter (by revert word; decide)

theorem primaryUpTo_absent {s : List Char} (h : ∀ n, ruleUpTo n 0 s = .ok (none, s)) (n : Nat) :
    primaryUpTo n s = .ok (none, s) := by
  cases n with
  | zero => rfl
  | succ n => rw [primaryUpTo_succ]; exact ruleOf_absent (h n) (fun hk => absurd hk (by decide))

/-- Nothing carries on where no step, stage, choice or operator is marked. -/
theorem Follows.of_unmarked {bound : Nat} {rest s : List Char} (hs : skipSpacing rest = s)
    (hword : Stops joins rest) (hfraction : ∀ places, mark? "." rest = some places → Stops isDigit places)
    (hrange : mark? ".." s = none)
    (hargument : s.head? = some '-' ∨ ∀ n, ruleUpTo n 0 s = .ok (none, s))
    (hstep : 1 ≤ bound → symbol? "." s = none) (hstage : 2 ≤ bound → symbol? "|" s = none)
    (hchoice : 3 ≤ bound → symbol? "?" s = none)
    (hoperator : ∀ l : Operator.Level, l.looseness ≤ bound → operator? l.operators s = none) :
    Follows bound rest where
  word := hword
  fraction := hfraction
  range := hs ▸ hrange
  argument := hs ▸ hargument.imp_right primaryUpTo_absent
  step := by
    intro hb _ after h
    rw [hs, point?, hrange, hstep hb] at h
    cases h
  stage := by
    intro hb _ after h
    rw [hs, hstage hb] at h
    cases h
  choice := hs ▸ hchoice
  operator := by
    intro l hl op after h
    rw [hs, hoperator l hl] at h
    cases h

/-- The characters that carry an expression on, or start one. -/
def carriesOn (c : Char) : Bool :=
  startsBase c || ['.', '|', '?', '=', '!', '<', '>', '+', '*', '/', '%'].contains c

theorem carriesOn_symbol (op : Operator) : op.symbol.toList.head?.any carriesOn = true := by
  cases op <;> rfl

theorem operator?_of_stops {s : List Char} (h : Stops carriesOn s) (operators : List Operator) :
    operator? operators s = none := by
  refine List.findSome?_eq_none_iff.mpr fun op _ => ?_
  split
  · rw [keyword?_of_stops op.symbol h (carriesOn_symbol op)]; rfl
  · rw [symbol?_of_stops h (carriesOn_symbol op)]; rfl

theorem not_fraction {c : Char} (h : c ≠ '.') (rest : List Char) :
    ∀ places, mark? "." (c :: rest) = some places → Stops isDigit places := by
  intro places hmark
  rw [mark?_of_stops (Stops.cons (p := (· == '.')) (by simpa using h)) rfl] at hmark
  cases hmark

/-! ## What follows in a text -/

theorem Follows.of_stops (bound : Nat) {c : Char} {rest s : List Char} (hs : skipSpacing (c :: rest) = s)
    (hjoin : joins c = false) (hpoint : c ≠ '.') (hstops : Stops carriesOn s) : Follows bound (c :: rest) :=
  .of_unmarked hs (Stops.cons hjoin) (not_fraction hpoint rest) (mark?_of_stops hstops rfl)
    (.inr fun _ => base_absent_of_stops (hstops.mono fun c hc => by simp [carriesOn, hc]))
    (fun _ => symbol?_of_stops hstops rfl) (fun _ => symbol?_of_stops hstops rfl)
    (fun _ => symbol?_of_stops hstops rfl) (fun l _ => operator?_of_stops hstops l.operators)

theorem Follows.nil (bound : Nat) : Follows bound [] :=
  .of_unmarked rfl Stops.nil nofun rfl (.inr fun _ => base_absent_of_stops Stops.nil) (fun _ => rfl)
    (fun _ => rfl) (fun _ => rfl) (fun l _ => operator?_of_stops Stops.nil l.operators)

/-- The characters that close a bracket or part two members. -/
def closes (c : Char) : Bool := [')', ']', '\x7d', ',', ':'].contains c

theorem closes_apart {c : Char} (h : closes c = true) :
    isSpace c = false ∧ c ≠ '\x7b' ∧ c ≠ '.' ∧ joins c = false ∧ carriesOn c = false := by
  have hall : ([')', ']', '\x7d', ',', ':'].all fun c =>
      !isSpace c && c != '\x7b' && c != '.' && !joins c && !carriesOn c) = true := by decide
  simpa [and_assoc] using List.all_eq_true.mp hall c (List.contains_iff_mem.mp h)

theorem skipSpacing_closer {c : Char} (h : closes c = true) (rest : List Char) :
    skipSpacing (c :: rest) = c :: rest := by
  obtain ⟨hspace, hbrace, -⟩ := closes_apart h
  exact skipSpacing_of_unspaced (.cons rest hspace hbrace)

theorem Follows.closer (bound : Nat) {c : Char} (hc : closes c = true) (rest : List Char) :
    Follows bound (c :: rest) := by
  obtain ⟨-, -, hpoint, hjoin, hcarries⟩ := closes_apart hc
  exact .of_stops bound (skipSpacing_closer hc rest) hjoin hpoint (Stops.cons hcarries)

theorem Begins.not_closer {s : List Char} (h : Begins s) {closing : String} {c : Char}
    (hc : closing.toList = [c]) (hclose : closes c = true) : symbol? closing s = none := by
  have hstart : startsBase c = false := by
    have hcarries := (closes_apart hclose).2.2.2.2
    exact (Bool.or_eq_false_iff.mp hcarries).1
  refine h.symbol?_eq_none ?_
  rw [hc]
  simpa using hstart

theorem Follows.point {c : Char} (hc : isLetter c = true) (rest : List Char) :
    Follows 0 ('.' :: c :: rest) := by
  have hskip : skipSpacing ('.' :: c :: rest) = '.' :: c :: rest :=
    skipSpacing_of_unspaced (.cons _ rfl (by decide))
  have hrange : mark? ".." ('.' :: c :: rest) = none := by
    refine Option.eq_none_iff_forall_ne_some.mpr fun after h => ?_
    have hdots : '.' :: c :: rest = '.' :: '.' :: after := Text.after?_eq_some_iff.mp h
    obtain rfl := (List.cons.inj (List.cons.inj hdots).2).1
    exact absurd hc (by decide)
  refine .of_unmarked hskip (Stops.cons rfl) (fun places hmark => ?_) hrange
    (.inr fun _ => base_absent_of_stops (Stops.cons rfl)) nofun nofun nofun fun l hl => ?_
  · obtain rfl := Option.some.inj (hmark.symm.trans (mark?_append "." (c :: rest)))
    exact Stops.cons (letter_not_digit hc)
  · cases l <;> exact absurd hl (by decide)

/-- Behind a blank stands a mark that does not carry on at this looseness. -/
theorem Follows.of_space {bound : Nat} {s : List Char} (hs : Unspaced s) (hpoint : Stops (· == '.') s)
    (hargument : s.head? = some '-' ∨ ∀ n, ruleUpTo n 0 s = .ok (none, s))
    (hstage : 2 ≤ bound → symbol? "|" s = none) (hchoice : 3 ≤ bound → symbol? "?" s = none)
    (hoperator : ∀ l : Operator.Level, l.looseness ≤ bound → operator? l.operators s = none) :
    Follows bound (' ' :: s) :=
  .of_unmarked (by rw [skipSpacing_space rfl, skipSpacing_of_unspaced hs]) (Stops.cons rfl)
    (not_fraction (by decide) _) (mark?_of_stops hpoint rfl) hargument
    (fun _ => symbol?_of_stops hpoint rfl) hstage hchoice hoperator

theorem Follows.stage_mark (rest : List Char) : Follows 1 (' ' :: '|' :: rest) :=
  .of_space (.cons rest rfl (by decide)) (Stops.cons rfl)
    (.inr fun _ => base_absent_of_stops (Stops.cons rfl)) nofun nofun fun l hl => by
      cases l <;> exact absurd hl (by decide)

theorem Follows.choice_mark (rest : List Char) : Follows 2 (' ' :: '?' :: rest) :=
  .of_space (.cons rest rfl (by decide)) (Stops.cons rfl)
    (.inr fun _ => base_absent_of_stops (Stops.cons rfl)) (fun _ => rfl) nofun fun l hl => by
      cases l <;> exact absurd hl (by decide)

theorem Follows.colon (bound : Nat) (rest : List Char) : Follows bound (' ' :: ':' :: rest) :=
  .of_space (.cons rest rfl (by decide)) (Stops.cons rfl)
    (.inr fun _ => base_absent_of_stops (Stops.cons rfl)) (fun _ => rfl) (fun _ => rfl) fun l _ =>
      operator?_of_stops (Stops.cons rfl) l.operators

/-! ## Operators behind their operands -/

theorem operator?_symbol (op : Operator) (rest : List Char) :
    operator? op.level.operators (op.symbol.toList ++ ' ' :: rest) =
      some (op, skipSpacing (' ' :: rest)) := by
  cases op <;> rfl

/-- An operator is not taken for one of a tighter level. -/
theorem operator?_tighter {op : Operator} {l : Operator.Level} (h : l.looseness < op.level.looseness)
    (rest : List Char) : operator? l.operators (op.symbol.toList ++ ' ' :: rest) = none := by
  revert h
  cases op <;> cases l <;> intro h <;> first | rfl | exact absurd h (by decide)

/-- No argument starts with an operator, but for a minus. -/
theorem base_absent_of_symbol (op : Operator) (rest : List Char) :
    (op.symbol.toList ++ ' ' :: rest).head? = some '-' ∨
      ∀ n, ruleUpTo n 0 (op.symbol.toList ++ ' ' :: rest) = .ok (none, op.symbol.toList ++ ' ' :: rest) := by
  cases op with
  | subtract => exact .inl rfl
  | startsWith | endsWith | matching | isIn | or | and =>
    exact .inr fun _ => base_absent_of_keyword _ (by decide) (by decide) (Stops.cons rfl)
  | _ => exact .inr fun _ => base_absent_of_stops (Stops.cons rfl)

theorem unspaced_symbol (op : Operator) (rest : List Char) :
    Unspaced (op.symbol.toList ++ ' ' :: rest) := by
  cases op <;> exact .cons _ rfl (by decide)

theorem stops_symbol (op : Operator) (rest : List Char) :
    Stops (fun c => c == '.' || c == '|' || c == '?') (op.symbol.toList ++ ' ' :: rest) := by
  cases op <;> exact Stops.cons rfl

theorem Follows.symbol (op : Operator) (rest : List Char) :
    Follows (op.level.looseness - 1) (' ' :: (op.symbol.toList ++ ' ' :: rest)) := by
  have hstops := stops_symbol op rest
  refine .of_space (unspaced_symbol op rest) (hstops.char rfl) (base_absent_of_symbol op rest)
    (fun _ => symbol?_of_stops hstops rfl) (fun _ => symbol?_of_stops hstops rfl) fun l hl =>
      operator?_tighter ?_ rest
  have hpos : 0 < op.level.looseness := by cases op <;> decide
  omega

/-! ## The ladder stops there -/

theorem level_passes {l : Operator.Level} {operand : Rule Expr} {s rest : List Char} {e : Expr}
    (h : operand s = .ok (some e, rest))
    (habsent : ∀ op after, operator? l.operators rest = some (op, after) → operand after = .ok (none, after)) :
    level l operand s = .ok (some e, rest) := by
  rw [level, h, Except.ok_bind]
  simp only [chainTail_of_absent habsent]
  rfl

theorem ruleUpTo_passes_one {n k : Nat} {s rest : List Char} {e : Expr} (hk : k < 11)
    (h : ruleUpTo n k s = .ok (some e, skipSpacing rest)) (hrest : Follows (k + 1) rest) :
    ruleUpTo n (k + 1) s = .ok (some e, skipSpacing rest) := by
  have hlevel : ∀ l : Operator.Level, l.looseness = k + 1 →
      ruleUpTo n (k + 1) s = .ok (some e, skipSpacing rest) := by
    intro l hl
    have hl' : l.looseness - 1 = k := by omega
    show loosen (expressionUpTo n) k (ruleUpTo n k) s = _
    rw [← hl', loosen_level, hl']
    refine level_passes h fun op after hop => ?_
    have := hrest.operator l (by omega) op after hop n
    rwa [hl'] at this
  show loosen (expressionUpTo n) k (ruleUpTo n k) s = _
  match k with
  | 0 =>
    rw [loosen, behind, h, Except.ok_bind]
    simp only [withSteps, parts_of_absent (hrest.step (by omega) _)]
    rfl
  | 1 =>
    rw [loosen, behind, h, Except.ok_bind]
    simp only [withStages, parts_of_absent (hrest.stage (by omega) _)]
    rfl
  | 2 =>
    rw [loosen, ternaryRule, h, Except.ok_bind]
    simp only [hrest.choice (by omega)]
    rfl
  | 3 => exact hlevel .product rfl
  | 4 => exact hlevel .sum rfl
  | 5 => rw [loosen, negatable, not_keyword_of_reads (Nat.le_refl 5) h]; exact h
  | 6 => exact hlevel .relation rfl
  | 7 => exact hlevel .equality rfl
  | 8 => exact hlevel .conjunction rfl
  | 9 => exact hlevel .disjunction rfl
  | 10 => exact hlevel .test rfl

/-- What a rule has read is read by every looser rule up to where `rest` carries on. -/
theorem ruleUpTo_passes {n j k : Nat} {s rest : List Char} {e : Expr} (hjk : j ≤ k) (hk : k ≤ 11)
    (h : ruleUpTo n j s = .ok (some e, skipSpacing rest)) (hrest : Follows k rest) :
    ruleUpTo n k s = .ok (some e, skipSpacing rest) := by
  induction hjk with
  | refl => exact h
  | @step k _ ih => exact ruleUpTo_passes_one hk (ih (by omega) (hrest.mono (Nat.le_succ k))) hrest

end TemplateEngine.Grammar
