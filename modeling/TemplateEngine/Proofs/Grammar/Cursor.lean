/-
  TemplateEngine.Proofs.Grammar.Cursor — what the rules of expressions do to a place in a source.

  A rule is tried from a place of a source. It fails there, or it does not apply and stays at
  that place, or it goes on to a later place with no spacing behind it. Along the way it tries
  other rules, and itself, from places further on; only the rungs of the ladder try a rule
  from where they stand, and that is the rung below. So the grammar recurs on what is left of
  the source first and on the rung second.

  Proved:
  - `Form.keeps`: where a rule leaves off from a place of a source, if it applies and if not.
  - `Form.declines`, `Form.guarded`: what a rule depends on when it does not apply, and at all.
  - `wellFounded_precedes`, `unfolded_congr`: the recursion of the grammar is well-founded.
  - `Loop.advances`, `Loop.run_ends`, `unbounded`: every round of a loop reads something, a loop
    ends where no round applies, and no bound on rounds or on depth is ever met.
  - `expression_rules`: all of this for all rules of expressions, at all places of all sources.
-/

import TemplateEngine.Proofs.Grammar.Recursion
import TemplateEngine.Proofs.Locality.Halt
import TemplateEngine.Proofs.Scan.Skipping

namespace TemplateEngine.Grammar

open Scan TemplateEngine.Except
open TemplateEngine.Expr (WellFormed)
open Operator (Level)

/-! ## Rules at a place -/

/-- Tries a rule from a place of a source. With the answer comes the place where it leaves off,
    whether it applies or not. -/
def readAt {α : Type} (rule : Rule α) (source : List Char) (offset : Nat) : Except Fault (Option α × Nat) := do
  let (answer, rest) ← rule (Text.afterByte offset source)
  return (answer, Text.utf8Size source - Text.utf8Size rest)

/-- From every place of every source the rule fails, or does not apply and stays where it is, or
    goes on to a later place of the source behind which no spacing is left to skip. -/
def Keeps {α : Type} (rule : Rule α) : Prop :=
  ∀ source offset, Text.IsBoundary source offset →
    (∃ fault, readAt rule source offset = .error fault) ∨
    readAt rule source offset = .ok (none, offset) ∨
    ∃ x stop, readAt rule source offset = .ok (some x, stop) ∧ offset < stop ∧ Text.IsBoundary source stop ∧
      NoSpacing (Text.afterByte stop source) ∧ skipSpacingFrom source stop = stop

theorem keeps_of_yields {α : Type} {good : α → Prop} {rule : Rule α} (hs : Stays rule) (h : Yields good rule) :
    Keeps rule := by
  rintro source _ ⟨front, s, rfl, rfl⟩
  simp only [readAt, Text.afterByte_append]
  rcases hread : rule s with fault | ⟨_ | x, rest⟩
  · exact .inl ⟨fault, rfl⟩
  · obtain rfl := hs s rest hread
    refine .inr (.inl ?_)
    show Except.ok (none, Text.utf8Size (front ++ _) - Text.utf8Size _) = _
    rw [Text.utf8Size_append, Nat.add_sub_cancel]
  · obtain ⟨-, ⟨piece, hfirm, rfl⟩, hrest⟩ := h s x rest hread
    have hsource : front ++ (piece ++ rest) = (front ++ piece) ++ rest := (List.append_assoc ..).symm
    have hstop : Text.utf8Size (front ++ (piece ++ rest)) - Text.utf8Size rest = Text.utf8Size (front ++ piece) := by
      rw [hsource, Text.utf8Size_append (front ++ piece)]
      exact Nat.add_sub_cancel ..
    have hpiece : 0 < Text.utf8Size piece :=
      Nat.lt_of_lt_of_le (List.length_pos_of_ne_nil hfirm.ne_nil) (Text.length_le_utf8Size piece)
    have hspacing : NoSpacing rest := unspaced_iff.mp hrest
    refine .inr (.inr ⟨x, Text.utf8Size (front ++ piece), ?_, ?_, ?_, ?_, ?_⟩)
    · rw [← hstop]
      rfl
    · rw [Text.utf8Size_append]
      omega
    · rw [hsource]
      exact Text.isBoundary_append ..
    · rw [hsource, Text.afterByte_append]
      exact hspacing
    · have hskip := skipSpacingFrom_append (front ++ piece) Spacing.nil hspacing
      rwa [List.nil_append, List.append_nil, ← hsource] at hskip

/-- The rules of expressions: the levels of operators with the operands of relations among them,
    choices, values with their steps and stages, and then the forms that a value starts with and
    their parts. -/
inductive Form
  | level (l : Level)
  | operand
  | choice
  | value
  | parenthesized
  | basic
  | list
  | map
  | scalar
  | named
  | step
  | reference
  | fixedKey
  | arguments

/-- What a rule answers with. -/
def Form.Answer : Form → Type
  | .scalar => Literal
  | .fixedKey => String
  | .arguments => List Expr
  | _ => Expr

/-- The rule, with the rules for values and expressions that it refers to. -/
def Form.rule (primary expr : Rule Expr) : (form : Form) → Rule form.Answer
  | .level l => ruleOf primary expr l.looseness
  | .operand => ruleOf primary expr 6
  | .choice => ruleOf primary expr 3
  | .value => ruleOf primary expr 2
  | .parenthesized => Grammar.parenthesized expr
  | .basic => Grammar.basic primary expr
  | .list => listLiteral expr
  | .map => mapLiteral expr
  | .scalar => Grammar.scalar
  | .named => Grammar.named primary expr
  | .step => selectionStep expr
  | .reference => functionReference expr
  | .fixedKey => Grammar.fixedKey
  | .arguments => Grammar.arguments expr

/-- Where a rule does not apply it stays, whatever the rules that it refers to do. -/
theorem Form.stays (form : Form) (primary expr : Rule Expr) : Stays (form.rule primary expr) := by
  cases form with
  | level l => exact ruleOf_stays primary expr _
  | operand => exact ruleOf_stays primary expr 6
  | choice => exact ruleOf_stays primary expr 3
  | value => exact ruleOf_stays primary expr 2
  | parenthesized => exact parenthesized_stays expr
  | basic => exact basic_stays primary expr
  | list => exact listLiteral_stays expr
  | map => exact mapLiteral_stays expr
  | scalar => exact scalar_stays
  | named => exact named_stays primary expr
  | step => exact selectionStep_stays expr
  | reference => exact functionReference_stays expr
  | fixedKey => exact fixedKey_stays
  | arguments => exact enclosed_stays expr "(" ")"

theorem Form.keeps (form : Form) : Keeps (form.rule primary expression) := by
  have hs := form.stays primary expression
  have hy := expression_yields
  have hladder := ruleOf_yields hy primary_yields
  cases form with
  | level l => exact keeps_of_yields hs (hladder _)
  | operand => exact keeps_of_yields hs (hladder 6)
  | choice => exact keeps_of_yields hs (hladder 3)
  | value => exact keeps_of_yields hs (hladder 2)
  | parenthesized => exact keeps_of_yields hs (parenthesized_yields hy)
  | basic => exact keeps_of_yields hs (basic_yields hy primary_yields)
  | list => exact keeps_of_yields hs (listLiteral_yields hy)
  | map => exact keeps_of_yields hs (mapLiteral_yields hy)
  | scalar => exact keeps_of_yields hs scalar_yields
  | named => exact keeps_of_yields hs (named_yields hy primary_yields)
  | step => exact keeps_of_yields hs (selectionStep_yields hy)
  | reference => exact keeps_of_yields hs (functionReference_yields hy)
  | fixedKey => exact keeps_of_yields hs fixedKey_yields
  | arguments => exact keeps_of_yields hs (arguments_yields hy)

/-- Whether a rule applies is settled before it asks for any value or expression. -/
theorem Form.declines (form : Form) {primary expr : Rule Expr} {s : List Char}
    (h : form.rule primary expr s = .ok (none, s)) (primary' expr' : Rule Expr) :
    form.rule primary' expr' s = .ok (none, s) := by
  cases form with
  | level l => exact absent_of_none h primary' expr'
  | operand => exact absent_of_none h primary' expr'
  | choice => exact absent_of_none h primary' expr'
  | value => exact absent_of_none h primary' expr'
  | parenthesized => exact parenthesized_eq_none_iff.mpr (parenthesized_eq_none_iff.mp h)
  | basic => exact basic_absent_of_none h primary' expr'
  | list => exact listLiteral_eq_none_iff.mpr (listLiteral_eq_none_iff.mp h)
  | map => exact mapLiteral_eq_none_iff.mpr (mapLiteral_eq_none_iff.mp h)
  | scalar => exact h
  | named => exact named_eq_none_iff.mpr (named_eq_none_iff.mp h)
  | step => exact selectionStep_eq_none_iff.mpr (selectionStep_eq_none_iff.mp h)
  | reference => exact functionReference_eq_none_iff.mpr (functionReference_eq_none_iff.mp h)
  | fixedKey => exact h
  | arguments => exact enclosed_eq_none_iff.mpr (enclosed_eq_none_iff.mp h)

/-- The rule asks for values and expressions only where something has been read. -/
def Form.Guarded (form : Form) : Prop :=
  ∀ s (primary' expr' : Rule Expr), (∀ t, Behind t s → primary t = primary' t ∧ expression t = expr' t) →
    form.rule primary expression s = form.rule primary' expr' s

theorem Form.guarded (form : Form) : form.Guarded := by
  intro s primary' expr' hagree
  have hy := expression_yields
  have h : AgreeBehind s expression expr' := fun t ht => (hagree t ht).2
  have hp : AgreeBehind s primary primary' := fun t ht => (hagree t ht).1
  have hladder := fun k => ruleOf_congr hy h primary_yields hp k s (List.suffix_refl s)
  cases form with
  | level l => exact hladder _
  | operand => exact hladder 6
  | choice => exact hladder 3
  | value => exact hladder 2
  | parenthesized => exact parenthesized_congr h
  | basic => exact basic_congr hy h hp
  | list => exact listLiteral_congr hy h
  | map => exact mapLiteral_congr hy h
  | scalar => rfl
  | named => exact named_congr hy h hp
  | step => exact selectionStep_congr hy h
  | reference => exact functionReference_congr hy h
  | fixedKey => rfl
  | arguments => exact enclosed_congr hy h ")" (by decide)

/-! ## What the recursion is on -/

/-- Less of the source is left, or the place is the same and the rung is a tighter one. -/
def Precedes (a b : List Char × Nat) : Prop := Behind a.1 b.1 ∨ a.1 = b.1 ∧ a.2 < b.2

theorem wellFounded_precedes : WellFounded Precedes := by
  have hlex : WellFounded (InvImage (Prod.Lex (· < ·) (· < ·)) fun a : List Char × Nat => (a.1.length, a.2)) :=
    InvImage.wf _ (Prod.lex Nat.lt_wfRel Nat.lt_wfRel).wf
  refine Subrelation.wf (fun {a b} h => ?_) hlex
  rcases h with h | ⟨h, hk⟩
  · exact Prod.Lex.left _ _ h.length_lt
  · have hlen := congrArg List.length h
    simp only [InvImage, hlen]
    exact Prod.Lex.right _ hk

/-- A rung of the ladder that refers to the given ones in place of the rungs. -/
def unfolded (rungs : Nat → Rule Expr) : Nat → Rule Expr
  | 0 => orElse (Grammar.parenthesized (rungs 11)) (Grammar.basic (rungs 2) (rungs 11))
  | k + 1 => loosen (rungs 11) k (rungs k)

/-- A rung refers to rungs at pairs of a rest and a rung that precede its own. -/
theorem unfolded_congr {k : Nat} {s : List Char} {rungs : Nat → Rule Expr}
    (h : ∀ j t, Precedes (t, j) (s, k) → rung j t = rungs j t) : rung k s = unfolded rungs k s := by
  have hy := expression_yields
  have hexpr : AgreeBehind s expression (rungs 11) := fun t ht => by
    rw [expression_eq]
    exact h 11 t (.inl ht)
  have hprimary : AgreeBehind s primary (rungs 2) := fun t ht => by
    rw [primary_eq]
    exact h 2 t (.inl ht)
  cases k with
  | zero =>
    exact orElse_congr (parenthesized_stays expression) (parenthesized_congr hexpr) (basic_congr hy hexpr hprimary)
  | succ k =>
    have htighter : AgreeFrom s (rung k) (rungs k) := by
      intro t ht
      by_cases hs : t = s
      · exact h k t (.inr ⟨hs, Nat.lt_succ_self k⟩)
      · exact h k t (.inl ⟨ht, hs⟩)
    exact loosen_congr hy hexpr k (ruleOf_yields hy primary_yields k) htighter

/-! ## Loops and bounds -/

/-- The loops of the grammar that read part after part. -/
inductive Loop
  | operands (l : Level)
  | steps
  | stages
  | members

/-- What a round of a loop reads. -/
def Loop.Part : Loop → Type
  | .operands _ => Operator × Expr
  | _ => Expr

/-- A round of a loop: the mark of a further part, and the part. -/
def Loop.round : (loop : Loop) → Rule loop.Part
  | .operands l => continuation l.operators (rung (l.looseness - 1))
  | .steps => markedPart point? (selectionStep expression)
  | .stages => markedPart (symbol? "|") (functionReference expression)
  | .members => furtherMember expression

/-- A loop of at most `n` rounds, as the grammar has it. -/
def Loop.run : (loop : Loop) → Nat → List Char → Except Fault (List loop.Part × List Char)
  | .operands l => chainTail l.operators (rung (l.looseness - 1))
  | .steps => parts point? (selectionStep expression)
  | .stages => parts (symbol? "|") (functionReference expression)
  | .members => afterCommas expression

theorem Loop.run_eq_rounds (loop : Loop) (n : Nat) (s : List Char) : loop.run n s = rounds loop.round n s := by
  cases loop with
  | operands l => exact chainTail_eq_rounds ..
  | steps => exact parts_eq_rounds ..
  | stages => exact parts_eq_rounds ..
  | members => exact afterCommas_eq_rounds ..

theorem Loop.advances (loop : Loop) : Advances loop.round := by
  have hy := expression_yields
  cases loop with
  | operands l => exact advances_continuation (ruleOf_yields hy primary_yields _)
  | steps => exact advances_markedPart (fun _ _ => point?_takes) (selectionStep_yields hy)
  | stages => exact advances_markedPart (fun _ _ => stageMark_takes) (functionReference_yields hy)
  | members => exact advances_furtherMember hy

theorem Loop.run_congr (loop : Loop) {s : List Char} {n : Nat} (h : s.length ≤ n) :
    loop.run n s = loop.run s.length s := by
  rw [loop.run_eq_rounds, loop.run_eq_rounds]
  exact rounds_congr loop.advances (fun _ _ => rfl) h (Nat.le_refl _)

/-- A loop goes from round to round and ends behind the last that applies: a mark that no part
    follows is not read. -/
theorem Loop.run_ends (loop : Loop) {s rest : List Char} {more : List loop.Part}
    (h : loop.run s.length s = .ok (more, rest)) :
    Relation.ReflTransGen (LeadsOn loop.round) s rest ∧ loop.round rest = .ok (none, rest) := by
  rw [loop.run_eq_rounds] at h
  exact rounds_ends loop.advances h (Nat.le_refl _)

/-- An entry of a map with the comma behind it. -/
inductive Entry : List Char → List Char → Prop
  | read {key : String} {e : Expr} {s r r' r'' rest : List Char} :
      mapKey s = .ok (some key, r) → symbol? ":" (skipSpacing r) = some r' →
        expression r' = .ok (some e, r'') → symbol? "," r'' = some rest → Entry s rest

theorem behind_of_entry {s rest : List Char} (h : Entry s rest) : Behind rest s := by
  obtain ⟨hkey, hcolon, he, hcomma⟩ := h
  have hvalue := (mapKey_takes hkey).skip.trans (symbol?_takes (by decide) hcolon).1
  exact behind_of_takes <|
    (hvalue.trans (expression_yields _ _ _ he).2.1).trans (symbol?_takes (by decide) hcomma).1

/-- Bounds on the depth and on the rounds that are not below the number of characters left, so
    not below the number of bytes either, are never met: the answer, failure included, is that
    within the bound which the grammar sets. -/
structure Unbounded : Prop where
  depth : ∀ s n, s.length ≤ n → primaryUpTo n s = primary s ∧ expressionUpTo n s = expression s
  rounds : ∀ (loop : Loop) s n, s.length ≤ n → loop.run n s = loop.run s.length s
  entries : ∀ start s n, s.length < n →
    mapEntries expression start n s = mapEntries expression start (s.length + 1) s
  strings : ∀ quote start s n, s.length < n → stringBody quote start n s = stringBody quote start (s.length + 1) s

theorem unbounded : Unbounded where
  depth := fun _ _ h => ⟨primaryUpTo_eq h, expressionUpTo_eq h⟩
  rounds := fun loop _ _ h => loop.run_congr h
  entries := fun start _ _ h => mapEntries_congr expression_yields start (fun _ _ => rfl) h (Nat.lt_succ_self _)
  strings := fun quote start _ _ h => stringBody_congr quote start h (Nat.lt_succ_self _)

/-- Every rule of expressions keeps to its place or goes on from it, and asks for values and
    expressions only behind something that it has read; so do all rounds of its loops. -/
theorem expression_rules :
    (∀ form : Form, Keeps (form.rule primary expression) ∧ form.Guarded ∧
      ∀ s primary' expr', form.rule primary expression s = .ok (none, s) →
        form.rule primary' expr' s = .ok (none, s)) ∧
    (primary = Form.value.rule primary expression ∧ expression = (Form.level .test).rule primary expression) ∧
    (WellFounded Precedes ∧ ∀ k s (rungs : Nat → Rule Expr),
      (∀ j t, Precedes (t, j) (s, k) → rung j t = rungs j t) → rung k s = unfolded rungs k s) ∧
    (∀ (loop : Loop) s rest, LeadsOn loop.round s rest → Behind rest s) ∧ (∀ s rest, Entry s rest → Behind rest s) ∧
    (∀ (loop : Loop) s more rest, loop.run s.length s = .ok (more, rest) →
      Relation.ReflTransGen (LeadsOn loop.round) s rest ∧ loop.round rest = .ok (none, rest)) ∧
    Unbounded := by
  refine ⟨fun form => ⟨form.keeps, form.guarded, fun _ primary' expr' h => form.declines h primary' expr'⟩,
    ⟨primary_eq, expression_eq⟩, ⟨wellFounded_precedes, fun _ _ _ h => unfolded_congr h⟩, ?_,
    fun _ _ h => behind_of_entry h, fun loop _ _ _ h => loop.run_ends h, unbounded⟩
  intro loop s rest h
  obtain ⟨x, hround⟩ := h
  exact behind_of_takes (loop.advances.takes s x rest hround)

/-- A mark that no operand follows, a list that is not closed, and rules that differ where they stand. -/
theorem expression_rules_malformed :
    (readAt expression "äa %\x7d".toList 2 = .ok (some (.var "a"), 4) ∧
      NoSpacing (Text.afterByte 4 "äa %\x7d".toList)) ∧
    ruleOf (fun s => .ok (none, s)) (fun s => .ok (none, s)) 11 "%\x7d".toList = .ok (none, "%\x7d".toList) ∧
    listLiteral (fun t => if t = "[2".toList then .ok (none, t) else expression t) "[2".toList =
      listLiteral expression "[2".toList ∧
    unfolded (fun j t => if t = "[2".toList ∧ j = 11 then .ok (none, t) else rung j t) 11 "[2".toList =
      rung 11 "[2".toList ∧
    Behind "]".toList ",2]".toList ∧ Behind "b".toList "a:1,b".toList ∧
    (Loop.operands .product).round "%\x7d".toList = .ok (none, "%\x7d".toList) ∧
    expressionUpTo 9 "[2".toList = expression "[2".toList := by
  obtain ⟨hforms, -, ⟨-, hrungs⟩, hloops, hentries, hends, hbounds⟩ := expression_rules
  have hread : readAt expression "äa %\x7d".toList 2 = .ok (some (.var "a"), 4) := rfl
  have hunclosed : ∀ t, Behind t "[2".toList → t ≠ "[2".toList := fun t ht => ht.2
  refine ⟨⟨hread, ?_⟩, ?_, ?_, ?_, ?_, ?_, ?_, ?_⟩
  · rcases (hforms (.level .test)).1 "äa %\x7d".toList 2 ⟨['ä'], "a %\x7d".toList, rfl, rfl⟩ with
      ⟨fault, hfault⟩ | hnone | ⟨x, stop, hsome, -, -, hspacing, -⟩
    · cases hfault
    · cases hnone
    · cases hsome
      exact hspacing
  · exact (hforms (.level .test)).2.2 "%\x7d".toList _ _ rfl
  · refine ((hforms .list).2.1 "[2".toList primary _ fun t ht => ⟨rfl, ?_⟩).symm
    rw [if_neg (hunclosed t ht)]
  · refine (hrungs 11 "[2".toList _ fun j t ht => ?_).symm
    rcases ht with ht | ⟨-, hj⟩
    · rw [if_neg fun h => hunclosed t ht h.1]
    · rw [if_neg fun h => absurd hj (by simp [h.2])]
  · exact hloops .members _ _ ⟨.literal (.int 2), rfl⟩
  · exact hentries _ _ (.read rfl rfl rfl rfl)
  · exact (hends (.operands .product) "%\x7d".toList [] "%\x7d".toList rfl).2
  · exact (hbounds.depth "[2".toList 9 (by decide)).2

end TemplateEngine.Grammar
