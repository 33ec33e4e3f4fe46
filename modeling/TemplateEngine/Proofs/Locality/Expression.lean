/-
  TemplateEngine.Proofs.Locality.Expression — the rules of expressions look no further than
  they read.

  A chain of operators, the steps and the stages of a value go on as long as something
  follows that carries on. Where they stopped in front of one text they stop in front of
  every other at which an expression ends, and in between each part ends at the mark of the
  next one. So each rule of the ladder is local, and with the length of what is read all of
  them are (`upTo_local`).

  Proved:
  - `continuation_local`, `markedPart_local`: what a loop reads in a round.
  - `ruleOf_local`: a rule of the ladder is local if the rules it refers to are.
  - `expression_local`: what is read of an expression is read wherever it ends.
-/

import TemplateEngine.Proofs.Grammar.Recursion
import TemplateEngine.Proofs.Locality.Bases

namespace TemplateEngine.Grammar

open Scan
open TemplateEngine.Expr (WellFormed)
open Operator (Level)

variable {n : Nat} {primary primary' expr expr' : Rule Expr} {a b q t s : List Char}

/-! ## Operators -/

theorem isWord_of_level {l : Level} : ∀ op ∈ l.operators, ∀ op' ∈ l.operators, op.isWord = op'.isWord := by
  cases l <;> decide

theorem symbol_length_le {op : Operator} (h : op.isWord = false) : op.symbol.toList.length ≤ 2 := by
  cases op <;> first | decide | cases h

/-- The operator that is found is the first of them that stands here. -/
theorem operator?_eq_some_iff {operators : List Operator} {op : Operator} {r : List Char} :
    operator? operators s = some (op, r) ↔ ∃ before after, operators = before ++ op :: after ∧
      (if op.isWord then keyword? op.symbol s else symbol? op.symbol s) = some r ∧
        ∀ other ∈ before, (if other.isWord then keyword? other.symbol s else symbol? other.symbol s) = none := by
  rw [operator?, List.findSome?_eq_some_iff]
  constructor
  · rintro ⟨before, op', after, rfl, hfound, hbefore⟩
    obtain ⟨r', hread, hop⟩ := Option.map_eq_some_iff.mp hfound
    obtain ⟨rfl, rfl⟩ := Prod.mk.inj hop
    exact ⟨before, after, rfl, hread, fun other hother => Option.map_eq_none_iff.mp (hbefore other hother)⟩
  · rintro ⟨before, after, rfl, hread, hbefore⟩
    exact ⟨before, op, after, rfl, Option.map_eq_some_iff.mpr ⟨r, hread, rfl⟩,
      fun other hother => Option.map_eq_none_iff.mpr (hbefore other hother)⟩

theorem operator?_swap {l : Level} {op : Operator} (h : operator? l.operators (a ++ q) = some (op, b ++ q))
    (hb : b ≠ []) (t : List Char) : operator? l.operators (a ++ t) = some (op, skipSpacing (b ++ t)) := by
  obtain ⟨hmem, htakes, -⟩ := operator?_takes h
  have hlen : 2 ≤ a.length := by
    obtain ⟨-, hlen⟩ := cut_of_takes htakes
    have := List.length_pos_of_ne_nil hb
    omega
  obtain ⟨before, after, hl, hread, hbefore⟩ := operator?_eq_some_iff.mp h
  have hsame : ∀ other ∈ before, other.isWord = op.isWord := fun other hother =>
    isWord_of_level other (by simp [hl, hother]) op hmem
  by_cases hword : op.isWord = true
  · rw [if_pos hword] at hread
    have hread' := keyword?_swap (keyword_of_isWord hword) hread (SameWord.of_ne_nil hb q t)
    refine operator?_eq_some_iff.mpr ⟨before, after, hl, by rw [if_pos hword, hread'], fun other hother => ?_⟩
    have hother' : other.isWord = true := (hsame other hother).trans hword
    have hnone := hbefore other hother
    rw [if_pos hother'] at hnone ⊢
    refine keyword?_apart _ (keyword_of_isWord hword) (keyword_of_isWord hother') (fun heq => ?_) hread'
    rw [heq, hread] at hnone
    cases hnone
  · rw [if_neg hword] at hread
    refine operator?_eq_some_iff.mpr ⟨before, after, hl, by rw [if_neg hword, symbol?_swap hread t],
      fun other hother => ?_⟩
    have hother' : other.isWord = false := (hsame other hother).trans (Bool.eq_false_iff.mpr hword)
    have hnone := hbefore other hother
    rw [if_neg (by simp [hother'])] at hnone ⊢
    exact symbol?_none_swap (Nat.le_trans (symbol_length_le hother') hlen) t hnone

/-- Where an operator is found its sign stands, and a word ends behind a word. -/
theorem operator?_sign {operators : List Operator} {op : Operator} {r : List Char}
    (h : operator? operators s = some (op, r)) :
    ∃ rest, s = op.symbol.toList ++ rest ∧ (op.isWord = true → Stops isLetterOrDigit rest) := by
  obtain ⟨-, -, -, hread, -⟩ := operator?_eq_some_iff.mp h
  by_cases hword : op.isWord = true
  · rw [if_pos hword] at hread
    obtain ⟨rest, rfl, hstop, -⟩ := (keyword?_eq_some_iff (keyword_of_isWord hword)).mp hread
    exact ⟨rest, rfl, fun _ => hstop⟩
  · rw [if_neg hword] at hread
    obtain ⟨rest, rfl, -⟩ := symbol?_eq_some_iff.mp hread
    exact ⟨rest, rfl, fun h => absurd h hword⟩

/-- Where no operator goes on in front of one text, none does in front of another at which an
    expression ends. -/
theorem continuation_none_swap {k : Nat} {l : Level} (hl : l.looseness - 1 = k) (ht : Halts q t)
    (h : continuation l.operators (ruleOf primary expr k) q = .ok (none, q)) :
    continuation l.operators (ruleOf primary' expr' k) (skipSpacing t) = .ok (none, skipSpacing t) := by
  have hno : NoOperator l q := fun op r hop => by
    obtain ⟨r', hnone⟩ := continuation_eq_none_iff.mp h op r hop
    exact hl ▸ absent_of_none ((ruleOf_stays primary expr k).none_of hnone)
  exact continuation_eq_none_iff.mpr fun op r hop => ⟨r, hl ▸ ht.operator l hno op r hop _ _⟩

/-- An operator with its operand. The operand in front of it ends where the operator stands. -/
theorem continuation_local {k : Nat} {l : Level} (hl : l.looseness - 1 = k)
    (hy : Yields WellFormed (ruleOf primary expr k))
    (ho : Local n (ruleOf primary expr k) (ruleOf primary' expr' k)) (q t : List Char) :
    LocalRound n (continuation l.operators (ruleOf primary expr k))
      (continuation l.operators (ruleOf primary' expr' k)) q t := by
  rintro a b ⟨op, e⟩ hn hread ht
  obtain ⟨r, hop, he⟩ := continuation_eq_some_iff.mp hread
  have htakes := (hy _ _ _ he).2.1
  obtain ⟨c, rfl⟩ := (List.suffix_append b q).trans htakes.isSuffix
  obtain ⟨hfirm, -⟩ := cut_of_takes htakes
  obtain ⟨hmem, htakesOp, -⟩ := operator?_takes hop
  obtain ⟨hfirmOp, hlen⟩ := cut_of_takes htakesOp
  have hop' := operator?_swap hop hfirm.ne_nil t
  rw [hfirm.skipSpacing_append] at hop'
  refine ⟨?_, continuation_eq_some_iff.mpr ⟨_, hop', ho.inside hy (by omega) he ht⟩⟩
  -- the operand of this operator has been read
  have hno : ¬ NoOperator l (a ++ q) := fun hno => by
    have hnone := hno op _ hop primary expr
    rw [hl, he] at hnone
    cases hnone
  obtain ⟨rest, hs, hstop⟩ := operator?_sign hop'
  have hlevel := Operator.mem_operators_iff.mp hmem
  rw [hs]
  exact .sign (hs ▸ SameWord.of_ne_nil hfirmOp.ne_nil q t) hstop fun h => absurd (hlevel ▸ h) hno

/-! ## Steps and stages -/

section Parts

variable {opening : List Char → Option (List Char)} {part part' : Rule Expr} {good : Expr → Prop}
  (hy : Yields good part) (hp : Local n part part') (htakes : ∀ s r, opening s = some r → Takes s r)
  (hmark : ∀ {a b x r}, opening (a ++ q) = some (b ++ q) → Firm b → part (b ++ q) = .ok (some x, r) →
    Halts (a ++ q) (a ++ t) ∧ opening (a ++ t) = some (b ++ t))
include hy hp htakes hmark

/-- A part behind its mark, which the value in front of it ends at. -/
theorem markedPart_local : LocalRound n (markedPart opening part) (markedPart opening part') q t := by
  intro a b x hn hread ht
  obtain ⟨r, hopen, hx⟩ := markedPart_eq_some_iff.mp hread
  have htakes' := (hy _ _ _ hx).2.1
  obtain ⟨c, rfl⟩ := (List.suffix_append b q).trans htakes'.isSuffix
  obtain ⟨hfirm, -⟩ := cut_of_takes htakes'
  obtain ⟨-, hlen⟩ := cut_of_takes (htakes _ _ hopen)
  obtain ⟨hhalts, hopen'⟩ := hmark hopen hfirm hx
  exact ⟨hhalts, markedPart_eq_some_iff.mpr ⟨_, hopen', hp.inside hy (by omega) hx ht⟩⟩

/-- Parts behind marks. The value in front of them ends where they start. -/
theorem parts_local (hs : Stays part)
    (hend : (∀ r, opening q = some r → part r = .ok (none, r)) →
      ∀ r, opening (skipSpacing t) = some r → part' r = .ok (none, r))
    (ht : Halts q t) {more : List Expr} (hread : parts opening part (a ++ q).length (a ++ q) = .ok (more, q))
    (hn : a.length ≤ n) :
    Halts (a ++ q) (a ++ t) ∧
      parts opening part' (skipSpacing (a ++ t)).length (skipSpacing (a ++ t)) = .ok (more, skipSpacing t) := by
  rw [parts_eq_rounds] at hread ⊢
  have hnone := (rounds_ends (advances_markedPart htakes hy) hread (Nat.le_refl _)).2
  have hend' := hend fun r hopen => hs.exists_none.mp (markedPart_eq_none_iff.mp hnone r hopen)
  exact rounds_local (markedPart_yields htakes hy) (markedPart_local hy hp htakes hmark)
    (markedPart_eq_none_iff.mpr fun r hopen => ⟨r, hend' r hopen⟩) ht hread hn (Nat.le_refl _)

end Parts

theorem point?_eq_some_iff {r : List Char} : point? s = some r ↔ mark? ".." s = none ∧ symbol? "." s = some r := by
  refine ⟨symbol?_of_point?, fun ⟨hrange, hmark⟩ => ?_⟩
  rw [point?, hrange, hmark]
  rfl

theorem point?_swap (h : point? (a ++ q) = some (b ++ q)) (hb : Firm b) (t : List Char) :
    mark? ".." (a ++ t) = none ∧ point? (a ++ t) = some (b ++ t) := by
  obtain ⟨hrange, hmark⟩ := point?_eq_some_iff.mp h
  have hlen : "..".toList.length ≤ a.length := by
    obtain ⟨-, hlen⟩ := cut_of_takes (symbol?_takes (by decide) hmark).1
    have := List.length_pos_of_ne_nil hb.ne_nil
    show 2 ≤ a.length
    omega
  have hrange' := mark?_swap hlen t hrange
  have hmark' := symbol?_swap hmark t
  rw [hb.skipSpacing_append] at hmark'
  exact ⟨hrange', point?_eq_some_iff.mpr ⟨hrange', hmark'⟩⟩

/-- A value ends at the point of a step. -/
theorem halts_point (h : point? (a ++ q) = some (b ++ q)) (hb : Firm b) {name : String} {r : List Char}
    (hname : identifier? (b ++ q) = some (name, r)) (t : List Char) : Halts (a ++ q) (a ++ t) := by
  obtain ⟨-, hmark⟩ := point?_eq_some_iff.mp h
  obtain ⟨hfirm, hlen⟩ := cut_of_takes (symbol?_takes (by decide) hmark).1
  have hno : ¬ NoStep (a ++ q) := fun hno => by
    rw [hno _ h] at hname
    cases hname
  obtain ⟨hrange, -⟩ := point?_swap h hb t
  obtain ⟨a, rfl, hskip⟩ := symbol?_piece (c := '.') rfl hfirm.ne_nil hmark
  refine .point hno hrange ?_
  -- a digit behind the point would be where the name starts
  have hpos := List.length_pos_of_ne_nil hb.ne_nil
  obtain ⟨c, a, rfl⟩ := List.exists_cons_of_ne_nil (List.ne_nil_of_length_pos (by
    rw [List.length_cons] at hlen
    omega : 0 < a.length))
  refine Stops.cons (Bool.eq_false_iff.mpr fun hc => ?_)
  have hletter : isLetterOrDigit c = true := letterOrDigit_of_digit c hc
  have hstart : c :: a ++ q = b ++ q := by
    rw [← hskip]
    exact (skipSpacing_of_unspaced (firm_letterOrDigit hletter a q)).symm
  have hstops : Stops isLetter (c :: a ++ q) := Stops.cons (digit_not_letter c hc)
  rw [← hstart, identifier?_of_stops hstops] at hname
  cases hname

section

variable (hy : Yields WellFormed expr) (he : Local n expr expr')
include hy he

theorem withSteps_local {tighter tighter' : Rule Expr} (hyt : Yields WellFormed tighter)
    (h : Local (n + 1) tighter tighter') :
    Local (n + 1) (behind tighter (withSteps expr)) (behind tighter' (withSteps expr')) := by
  intro a q t x hn hread ht
  obtain ⟨e, r, he', hextend⟩ := behind_eq_some_iff.mp hread
  obtain ⟨steps, hsteps, rfl⟩ := withSteps_eq_ok_iff.mp hextend
  obtain ⟨b, rfl⟩ := (parts_yields (fun _ _ => point?_takes) (selectionStep_yields hy) hsteps).isSuffix
  obtain ⟨-, hlen⟩ := cut_of_takes (hyt _ _ _ he').2.1
  obtain ⟨hhalts, hsteps'⟩ := parts_local (selectionStep_yields hy) (selectionStep_local hy he)
    (fun _ _ => point?_takes)
    (fun hopen hb hstep => by
      obtain ⟨name, r, hname, -⟩ := selectionStep_eq_some_iff.mp hstep
      exact ⟨halts_point hopen hb hname t, (point?_swap hopen hb t).2⟩)
    (selectionStep_stays expr)
    (fun hnone r hr => selectionStep_eq_none_iff.mpr
      (ht.step (fun r hr => selectionStep_eq_none_iff.mp (hnone r hr)) r hr))
    ht hsteps (by omega)
  exact behind_eq_some_iff.mpr ⟨e, _, h.inside hyt hn he' hhalts,
    withSteps_eq_ok_iff.mpr ⟨steps, hsteps', rfl⟩⟩

theorem withStages_local {tighter tighter' : Rule Expr} (hyt : Yields WellFormed tighter)
    (h : Local (n + 1) tighter tighter') :
    Local (n + 1) (behind tighter (withStages expr)) (behind tighter' (withStages expr')) := by
  intro a q t x hn hread ht
  obtain ⟨e, r, he', hextend⟩ := behind_eq_some_iff.mp hread
  obtain ⟨stages, hstages, rfl⟩ := withStages_eq_ok_iff.mp hextend
  obtain ⟨b, rfl⟩ := (parts_yields (fun _ _ => stageMark_takes) (functionReference_yields hy) hstages).isSuffix
  obtain ⟨-, hlen⟩ := cut_of_takes (hyt _ _ _ he').2.1
  obtain ⟨hhalts, hstages'⟩ := parts_local (functionReference_yields hy) (functionReference_local hy he)
    (fun _ _ => stageMark_takes)
    (fun {a b x r} hopen hb hstage => by
      have hno : ¬ NoStage (a ++ q) := fun hno => by
        rw [functionReference_eq_none_iff.mpr (hno _ hopen)] at hstage
        cases hstage
      have hopen' := symbol?_swap hopen t
      rw [hb.skipSpacing_append] at hopen'
      obtain ⟨a, rfl, -⟩ := symbol?_piece (c := '|') rfl (cut_of_takes (stageMark_takes hopen)).1.ne_nil hopen
      exact ⟨.pipe fun h => absurd h hno, hopen'⟩)
    (functionReference_stays expr)
    (fun hnone r hr => functionReference_eq_none_iff.mpr
      (ht.stage (fun r hr => functionReference_eq_none_iff.mp (hnone r hr)) r hr))
    ht hstages (by omega)
  exact behind_eq_some_iff.mpr ⟨e, _, h.inside hyt hn he' hhalts,
    withStages_eq_ok_iff.mpr ⟨stages, hstages', rfl⟩⟩

theorem ternaryRule_local {tighter tighter' : Rule Expr} (hyt : Yields WellFormed tighter)
    (h : Local (n + 1) tighter tighter') :
    Local (n + 1) (ternaryRule tighter expr) (ternaryRule tighter' expr') := by
  intro a q t x hn hread ht
  obtain ⟨condition, r, hcondition, ⟨hmark, rfl, rfl⟩ | ⟨r₁, yes, r₂, r₃, no, hmark, hyes, hcolon, hno, rfl⟩⟩ :=
    ternaryRule_eq_some_iff.mp hread
  · exact ternaryRule_eq_some_iff.mpr ⟨condition, _, h a r t condition hn hcondition ht,
      .inl ⟨ht.choice hmark, rfl, rfl⟩⟩
  · have htakesNo := (hy _ _ _ hno).2.1
    have htakesColon := (symbol?_takes (by decide) hcolon).1
    have htakesYes := (hy _ _ _ hyes).2.1
    have htakesMark := (symbol?_takes (by decide) hmark).1
    obtain ⟨e, hfirmNo, rfl⟩ := htakesNo
    obtain ⟨d, rfl⟩ := (List.suffix_append e q).trans htakesColon.isSuffix
    obtain ⟨c, rfl⟩ := (List.suffix_append d q).trans htakesYes.isSuffix
    obtain ⟨b, rfl⟩ := (List.suffix_append c q).trans htakesMark.isSuffix
    obtain ⟨hfirmColon, hlenColon⟩ := cut_of_takes htakesColon
    obtain ⟨hfirmYes, hlenYes⟩ := cut_of_takes htakesYes
    obtain ⟨hfirmMark, hlenMark⟩ := cut_of_takes htakesMark
    obtain ⟨-, hlen⟩ := cut_of_takes (hyt _ _ _ hcondition).2.1
    have hmark' := symbol?_swap hmark t
    rw [hfirmYes.skipSpacing_append] at hmark'
    have hcolon' := symbol?_swap hcolon t
    rw [hfirmNo.skipSpacing_append] at hcolon'
    obtain ⟨d, rfl, -⟩ := symbol?_piece (c := ':') rfl hfirmColon.ne_nil hcolon
    have hyes' := he.inside hy (by omega) hyes (Halts.closer (by decide) _ (d ++ t))
    rw [hfirmColon.skipSpacing_append] at hyes'
    have hhalts : Halts (b ++ q) (b ++ t) := by
      have hsome : symbol? "?" (b ++ q) ≠ none := by
        rw [hmark]
        exact Option.some_ne_none _
      obtain ⟨b, rfl, -⟩ := symbol?_piece (c := '?') rfl hfirmMark.ne_nil hmark
      exact .question hsome (b ++ t)
    have hcondition' := h.inside hyt hn hcondition hhalts
    rw [hfirmMark.skipSpacing_append] at hcondition'
    exact ternaryRule_eq_some_iff.mpr ⟨condition, _, hcondition', .inr
      ⟨_, yes, _, _, no, hmark', hyes', hcolon', he e q t no (by omega) hno ht, rfl⟩⟩

end

/-! ## The ladder -/

theorem level_local {k : Nat} {l : Level} (hl : l.looseness - 1 = k)
    (hy : Yields WellFormed (ruleOf primary expr k))
    (ho : Local n (ruleOf primary expr k) (ruleOf primary' expr' k)) :
    Local n (level l (ruleOf primary expr k)) (level l (ruleOf primary' expr' k)) := by
  intro a q t x hn hread ht
  obtain ⟨first, r, more, hfirst, hmore, rfl⟩ := level_eq_some_iff.mp hread
  obtain ⟨b, rfl⟩ := (chainTail_yields hy hmore).isSuffix
  obtain ⟨-, hlen⟩ := cut_of_takes (hy _ _ _ hfirst).2.1
  rw [chainTail_eq_rounds] at hmore
  have hnone := (rounds_ends (advances_continuation hy) hmore (Nat.le_refl _)).2
  obtain ⟨hhalts, hmore'⟩ := rounds_local (continuation_yields hy) (continuation_local hl hy ho q t)
    (continuation_none_swap hl ht hnone) ht hmore (by omega) (Nat.le_refl _)
  exact level_eq_some_iff.mpr ⟨first, _, more, ho.inside hy hn hfirst hhalts,
    chainTail_eq_rounds .. ▸ hmore', rfl⟩

theorem negatable_local (hy : Yields WellFormed (ruleOf primary expr 5))
    (ho : Local n (ruleOf primary expr 5) (ruleOf primary' expr' 5)) :
    Local n (negatable (ruleOf primary expr 5)) (negatable (ruleOf primary' expr' 5)) := by
  intro a q t x hn hread ht
  rcases negatable_eq_some_iff.mp hread with ⟨-, he⟩ | ⟨r, e, hnot, he, rfl⟩
  · have he' := ho a q t x hn he ht
    exact negatable_eq_some_iff.mpr (.inl ⟨not_keyword_of_reads (Nat.le_refl 5) he', he'⟩)
  · obtain ⟨-, ⟨b, hfirm, rfl⟩, -⟩ := hy _ _ _ he
    obtain ⟨-, hlen⟩ := cut_of_takes (keyword?_takes (by decide) hnot).1
    have hnot' := keyword?_swap (by decide) hnot (SameWord.of_ne_nil hfirm.ne_nil q t)
    rw [hfirm.skipSpacing_append] at hnot'
    exact negatable_eq_some_iff.mpr (.inr ⟨_, e, hnot', ho b q t e (by omega) he ht, rfl⟩)

section

variable (hy : Yields WellFormed expr) (he : Local n expr expr')
  (hyp : Yields WellFormed primary) (hp : Local n primary primary') (hbracket : PastBracket primary)
  (habsent : ∀ s, Absent 2 s → primary' s = .ok (none, s))
include hy he hyp hp hbracket habsent

theorem ruleOf_local {k : Nat} (hk : k ≤ 11) :
    Local (n + 1) (ruleOf primary expr k) (ruleOf primary' expr' k) := by
  induction k with
  | zero => exact base_local hy he hyp hp hbracket habsent
  | succ k ih =>
    have hyt := ruleOf_yields hy hyp k
    have ih := ih (by omega)
    have hlevel : ∀ l : Level, l.looseness - 1 = k →
        Local (n + 1) (loosen expr k (ruleOf primary expr k)) (loosen expr' k (ruleOf primary' expr' k)) := by
      intro l hl
      have := level_local hl hyt ih
      rwa [← loosen_level expr, ← loosen_level expr', hl] at this
    show Local (n + 1) (loosen expr k (ruleOf primary expr k)) (loosen expr' k (ruleOf primary' expr' k))
    match k with
    | 0 => exact withSteps_local hy he hyt ih
    | 1 => exact withStages_local hy he hyt ih
    | 2 => exact ternaryRule_local hy he hyt ih
    | 3 => exact hlevel .product rfl
    | 4 => exact hlevel .sum rfl
    | 5 => exact negatable_local hyt ih
    | 6 => exact hlevel .relation rfl
    | 7 => exact hlevel .equality rfl
    | 8 => exact hlevel .conjunction rfl
    | 9 => exact hlevel .disjunction rfl
    | 10 => exact hlevel .test rfl

end

/-! ## All rules -/

theorem upTo_pastString (n : Nat) : PastString (expressionUpTo n) := by
  cases n with
  | zero => exact nofun
  | succ n =>
    intro s text r x rest hstring hread
    rw [expressionUpTo_succ] at hread
    exact ruleOf_pastString (upTo_yields n).2 (upTo_yields n).1 11 s text r x rest hstring hread

theorem upTo_pastBracket (n : Nat) : PastBracket (primaryUpTo n) := by
  cases n with
  | zero => exact nofun
  | succ n =>
    intro s r x rest hopen hread
    rw [primaryUpTo_succ] at hread
    exact ruleOf_pastBracket (upTo_yields n).2 (upTo_yields n).1 (upTo_pastString n) 2 s r x rest hopen hread

theorem primaryUpTo_of_absent (h : Absent 2 s) (n : Nat) : primaryUpTo n s = .ok (none, s) := by
  cases n with
  | zero => rfl
  | succ n => exact (primaryUpTo_succ n s).trans (h _ _)

/-- The first run may be given any bound, the second at least the length of what is read. -/
theorem upTo_local (n n' : Nat) :
    Local n' (primaryUpTo n) (primaryUpTo n') ∧ Local n' (expressionUpTo n) (expressionUpTo n') := by
  induction n generalizing n' with
  | zero => exact ⟨nofun, nofun⟩
  | succ n ih =>
    obtain ⟨hyp, hy⟩ := upTo_yields n
    cases n' with
    | zero =>
      have hempty : ∀ {rule : Rule Expr} {rule'}, Yields WellFormed rule → Local 0 rule rule' := by
        intro rule rule' h a q t x hn hread _
        exact absurd (List.length_eq_zero_iff.mp (Nat.le_zero.mp hn)) (ne_nil_of_takes (h _ _ _ hread).2.1)
      exact ⟨hempty (upTo_yields (n + 1)).1, hempty (upTo_yields (n + 1)).2⟩
    | succ n' =>
      obtain ⟨hp, he⟩ := ih n'
      have hladder := fun {k} => ruleOf_local (k := k) hy he hyp hp (upTo_pastBracket n)
        fun s h => primaryUpTo_of_absent h n'
      refine ⟨fun a q t x hn hread ht => ?_, fun a q t x hn hread ht => ?_⟩
      · rw [primaryUpTo_succ] at hread ⊢
        exact hladder (by decide) a q t x hn hread ht
      · rw [expressionUpTo_succ] at hread ⊢
        exact hladder (by decide) a q t x hn hread ht

/-- What is read as an expression in front of one text is the same expression in front of every
    other at which it ends. -/
theorem expression_local {x : Expr} (h : expression (a ++ q) = .ok (some x, b ++ q))
    (ht : Halts (b ++ q) (b ++ t)) : expression (a ++ t) = .ok (some x, skipSpacing (b ++ t)) :=
  (upTo_local (a ++ q).length (a ++ t).length).2.inside (upTo_yields _).2 (by simp) h ht

end TemplateEngine.Grammar
