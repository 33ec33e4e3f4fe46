/-
  TemplateEngine.Proofs.Grammar.Recursion — the rules of expressions without their bounds.

  A rule refers to values and expressions only once it has read something, and every round of a
  loop reads something. So two runs of a rule answer alike, failures included, when what they
  refer to answers alike on the proper rests of the text (`AgreeBehind`), and a bound on the
  depth or on the rounds is never met if it is not below the number of characters left.

  Proved:
  - `rounds_congr`, `mapEntries_congr`, `stringBody_congr`: loops, whatever their bounds.
  - `rounds_ends`: a loop leaves off behind whole rounds, where there is no further one.
  - `ruleOf_congr`: a rung of the ladder looks at nothing but the proper rests of its text.
  - `upTo_congr`: so do not values and expressions look at their bounds.
  - `primary_eq`, `expression_eq`: the grammar of expressions as equations.
-/

import Mathlib.Logic.Relation
import TemplateEngine.Proofs.Grammar.Follow
import TemplateEngine.Proofs.Grammar.Yield

namespace TemplateEngine.Grammar

open Scan TemplateEngine.Except
open TemplateEngine.Expr (WellFormed)
open Operator (Level)

/-! ## Rests of a text -/

/-- What is left of `s` once something has been read. -/
def Behind (rest s : List Char) : Prop := rest <:+ s ∧ rest ≠ s

theorem Behind.length_lt {rest s : List Char} (h : Behind rest s) : rest.length < s.length := by
  by_contra hlen
  exact h.2 (h.1.eq_of_length_le (by omega))

theorem Behind.of_length_lt {rest s : List Char} (h : rest <:+ s) (hlen : rest.length < s.length) :
    Behind rest s :=
  ⟨h, fun heq => by simp [heq] at hlen⟩

theorem Behind.of_suffix {rest t s : List Char} (h : Behind rest t) (ht : t <:+ s) : Behind rest s :=
  .of_length_lt (h.1.trans ht) (Nat.lt_of_lt_of_le h.length_lt ht.length_le)

theorem behind_of_takes {rest s : List Char} (h : Takes s rest) : Behind rest s :=
  .of_length_lt h.isSuffix h.length_lt

/-- The rules answer alike on every rest of `s`, and on `s`. -/
def AgreeFrom {α : Type} (s : List Char) (rule rule' : Rule α) : Prop := ∀ t, t <:+ s → rule t = rule' t

/-- The rules answer alike on every rest of `s` in front of which something has been read. -/
def AgreeBehind {α : Type} (s : List Char) (rule rule' : Rule α) : Prop := ∀ t, Behind t s → rule t = rule' t

section

variable {α : Type} {s t : List Char} {rule rule' : Rule α}

theorem AgreeFrom.mono (h : AgreeFrom s rule rule') (ht : t <:+ s) : AgreeFrom t rule rule' :=
  fun r hr => h r (hr.trans ht)

theorem AgreeBehind.mono (h : AgreeBehind s rule rule') (ht : t <:+ s) : AgreeBehind t rule rule' :=
  fun r hr => h r (hr.of_suffix ht)

theorem AgreeBehind.from (h : AgreeBehind s rule rule') (ht : Behind t s) : AgreeFrom t rule rule' := by
  intro r hr
  exact h r (.of_length_lt (hr.trans ht.1) (Nat.lt_of_le_of_lt hr.length_le ht.length_lt))

end

/-! ## Loops -/

/-- What a round reads, it takes; one that does not apply stays in place, as all do at the end
    of a text. -/
structure Advances {α : Type} (round : Rule α) : Prop where
  takes : ∀ s x rest, round s = .ok (some x, rest) → Takes s rest
  stays : Stays round
  nil : round [] = .ok (none, [])

/-- A loop whose rounds take something runs alike within any bounds that are not below the
    number of characters left. -/
theorem rounds_congr {α : Type} {round round' : Rule α} (h : Advances round) {s : List Char}
    (hagree : AgreeFrom s round round') {n m : Nat} (hn : s.length ≤ n) (hm : s.length ≤ m) :
    rounds round n s = rounds round' m s := by
  induction n generalizing s m with
  | zero =>
    obtain rfl := List.length_eq_zero_iff.mp (Nat.le_zero.mp hn)
    cases m with
    | zero => rfl
    | succ m => simp [rounds, ← hagree [] (List.suffix_refl _), h.nil, ok_bind, pure, Except.pure]
  | succ n ih =>
    cases m with
    | zero =>
      obtain rfl := List.length_eq_zero_iff.mp (Nat.le_zero.mp hm)
      simp [rounds, h.nil, ok_bind, pure, Except.pure]
    | succ m =>
      refine bind_congr_ok (hagree s (List.suffix_refl s)) fun answer hfound => ?_
      obtain ⟨found, rest⟩ := answer
      cases found with
      | none => rfl
      | some x =>
        have htakes := h.takes s x rest hfound
        have hlen := htakes.length_lt
        simp only [ih (hagree.mono htakes.isSuffix) (show rest.length ≤ n by omega) (show rest.length ≤ m by omega)]

/-- A round leads from one place to another. -/
def LeadsOn {α : Type} (round : Rule α) (s rest : List Char) : Prop := ∃ x, round s = .ok (some x, rest)

/-- A loop leaves off behind whole rounds, at a place where no round applies. -/
theorem rounds_ends {α : Type} {round : Rule α} (h : Advances round) {n : Nat} {s rest : List Char} {more : List α}
    (hread : rounds round n s = .ok (more, rest)) (hn : s.length ≤ n) :
    Relation.ReflTransGen (LeadsOn round) s rest ∧ round rest = .ok (none, rest) := by
  induction n generalizing s more with
  | zero =>
    obtain rfl := List.length_eq_zero_iff.mp (Nat.le_zero.mp hn)
    cases hread
    exact ⟨.refl, h.nil⟩
  | succ n ih =>
    obtain ⟨⟨found, r⟩, hround, hread⟩ := bind_eq_ok.mp hread
    cases found with
    | none =>
      cases hread
      exact ⟨.refl, h.stays.none_of hround⟩
    | some x =>
      obtain ⟨⟨more', rest'⟩, hmore, hread⟩ := bind_eq_ok.mp hread
      cases hread
      have hlen := (h.takes s x r hround).length_lt
      obtain ⟨hchain, hstop⟩ := ih hmore (by omega)
      exact ⟨.head ⟨x, hround⟩ hchain, hstop⟩

section Parts

variable {opening : List Char → Option (List Char)} {part : Rule Expr} {good : Expr → Prop}
  (hopening : ∀ s r, opening s = some r → Takes s r) (hy : Yields good part)
include hopening hy

theorem advances_markedPart : Advances (markedPart opening part) where
  takes s x rest hread := (markedPart_yields hopening hy s x rest hread).2.1
  stays := markedPart_stays
  nil := markedPart_eq_none_iff.mpr fun r hopen => absurd (hopening [] r hopen).length_lt (Nat.not_lt_zero _)

theorem parts_congr {part' : Rule Expr} {s : List Char} (h : AgreeBehind s part part') {n m : Nat}
    (hn : s.length ≤ n) (hm : s.length ≤ m) : parts opening part n s = parts opening part' m s := by
  rw [parts_eq_rounds, parts_eq_rounds]
  refine rounds_congr (advances_markedPart hopening hy) (fun t ht => ?_) hn hm
  unfold markedPart
  split
  · rfl
  · rename_i r hopen
    rw [h r ((behind_of_takes (hopening t r hopen)).of_suffix ht)]

end Parts

section Operators

variable {operators : List Operator} {operand : Rule Expr} (hy : Yields WellFormed operand)
include hy

theorem advances_continuation : Advances (continuation operators operand) where
  takes s x rest hread := (continuation_yields hy s x rest hread).2.1
  stays := continuation_stays
  nil := continuation_eq_none_iff.mpr fun _ _ hop =>
    absurd (operator?_takes hop).2.1.length_lt (Nat.not_lt_zero _)

theorem chainTail_congr {operand' : Rule Expr} {s : List Char} (h : AgreeBehind s operand operand') {n m : Nat}
    (hn : s.length ≤ n) (hm : s.length ≤ m) :
    chainTail operators operand n s = chainTail operators operand' m s := by
  rw [chainTail_eq_rounds, chainTail_eq_rounds]
  refine rounds_congr (advances_continuation hy) (fun t ht => ?_) hn hm
  unfold continuation
  split
  · rfl
  · rename_i op r hop
    rw [h r ((behind_of_takes (operator?_takes hop).2.1).of_suffix ht)]

end Operators

section Members

variable {expr : Rule Expr} (hy : Yields WellFormed expr)
include hy

theorem advances_furtherMember : Advances (furtherMember expr) where
  takes s x rest hread := (furtherMember_yields hy s x rest hread).2.1
  stays := furtherMember_stays
  nil := rfl

theorem afterCommas_congr {expr' : Rule Expr} {s : List Char} (h : AgreeBehind s expr expr') {n m : Nat}
    (hn : s.length ≤ n) (hm : s.length ≤ m) : afterCommas expr n s = afterCommas expr' m s := by
  rw [afterCommas_eq_rounds, afterCommas_eq_rounds]
  refine rounds_congr (advances_furtherMember hy) (fun t ht => ?_) hn hm
  unfold furtherMember
  split
  · rfl
  · rename_i r hcomma
    have hr := (behind_of_takes (symbol?_takes (by decide) hcomma).1).of_suffix ht
    simp only [required, h r hr]

end Members

theorem mapEntries_congr {expr expr' : Rule Expr} (hy : Yields WellFormed expr) (start : List Char) {s : List Char}
    (h : AgreeFrom s expr expr') {n m : Nat} (hn : s.length < n) (hm : s.length < m) :
    mapEntries expr start n s = mapEntries expr' start m s := by
  induction n generalizing s m with
  | zero => exact absurd hn (Nat.not_lt_zero _)
  | succ n ih =>
    obtain ⟨m, rfl⟩ : ∃ k, m = k + 1 := ⟨m - 1, by omega⟩
    refine bind_congr_ok rfl fun (found, rest) hfound => ?_
    cases found with
    | none => rfl
    | some key =>
      have hrest := (mapKey_takes hfound).skip
      refine bind_congr_ok rfl fun rest₁ hcolon => ?_
      have hrest₁ := hrest.trans (symbol?_takes (by decide) (requiredSymbol_eq_ok_iff.mp hcolon)).1
      refine bind_congr_ok (by simp only [required, h rest₁ hrest₁.isSuffix]) fun value hvalue => ?_
      have hrest₂ := hrest₁.trans (hy _ _ _ (required_eq_ok_iff.mp hvalue)).2.1
      dsimp only
      split
      · rename_i rest₃ hcomma
        have hrest₃ := hrest₂.trans (symbol?_takes (by decide) hcomma).1
        have hlen := hrest₃.length_lt
        rw [ih (h.mono hrest₃.isSuffix) (show rest₃.length < n by omega) (show rest₃.length < m by omega)]
      · rfl

theorem stringBody_congr (quote : Char) (start : List Char) {s : List Char} {n m : Nat} (hn : s.length < n)
    (hm : s.length < m) : stringBody quote start n s = stringBody quote start m s := by
  induction n generalizing s m with
  | zero => exact absurd hn (Nat.not_lt_zero _)
  | succ n ih =>
    obtain ⟨m, rfl⟩ : ∃ k, m = k + 1 := ⟨m - 1, by omega⟩
    cases s with
    | nil => rfl
    | cons c rest =>
      simp only [List.length_cons] at hn hm
      have hrest := ih (show rest.length < n by omega) (show rest.length < m by omega)
      simp only [stringBody]
      rw [hrest]
      cases hescape : escape? rest with
      | none => rfl
      | some found =>
        obtain ⟨decoded, rest'⟩ := found
        have hlen := (escape?_isSuffix hescape).length_le
        dsimp only
        rw [ih (show rest'.length < n by omega) (show rest'.length < m by omega)]

/-! ## Rules -/

section Operands

variable {operand operand' : Rule Expr} {s : List Char} (h : AgreeFrom s operand operand')
include h

theorem level_congr (l : Level) (hy : Yields WellFormed operand) : level l operand s = level l operand' s := by
  refine bind_congr_ok (h s (List.suffix_refl s)) fun (found, rest) hfound => ?_
  cases found with
  | none => rfl
  | some first =>
    have hrest := (hy _ _ _ hfound).2.1.isSuffix
    have hbehind : AgreeBehind rest operand operand' := fun t ht => h t (ht.1.trans hrest)
    simp only [chainTail_congr hy hbehind (Nat.le_refl _) (Nat.le_refl _)]

theorem negatable_congr : negatable operand s = negatable operand' s := by
  unfold negatable
  split
  · exact h s (List.suffix_refl s)
  · rename_i rest hnot
    rw [h rest (keyword?_takes (by decide) hnot).1.isSuffix]

end Operands

section Inner

variable {expr expr' : Rule Expr} {s : List Char}

theorem required_congr (h : expr s = expr' s) : required expr s = required expr' s := by
  rw [required, h, required]

variable (hy : Yields WellFormed expr) (h : AgreeBehind s expr expr')
include h

theorem parenthesized_congr : parenthesized expr s = parenthesized expr' s := by
  unfold parenthesized
  split
  · rfl
  · rename_i rest hopen
    rw [required_congr (h rest (behind_of_takes (symbol?_takes (by decide) hopen).1))]

include hy

theorem enclosed_congr {opening : String} (closing : String) (ho : startsFirm opening = true) :
    enclosed opening closing expr s = enclosed opening closing expr' s := by
  unfold enclosed
  split
  · rfl
  rename_i rest hopen
  have hrest := behind_of_takes (symbol?_takes ho hopen).1
  split
  · rfl
  refine bind_congr_ok (required_congr (h rest hrest)) fun found hfound => ?_
  have hmore := (hy _ _ _ (required_eq_ok_iff.mp hfound)).2.1.isSuffix.trans hrest.1
  simp only [afterCommas_congr hy (h.mono hmore) (Nat.le_refl _) (Nat.le_refl _)]

theorem listLiteral_congr : listLiteral expr s = listLiteral expr' s := by
  rw [listLiteral_eq, listLiteral_eq, enclosed_congr hy h "]" (by decide)]

theorem mapLiteral_congr : mapLiteral expr s = mapLiteral expr' s := by
  unfold mapLiteral
  split
  · rfl
  rename_i rest hopen
  -- a brace is no firm piece by itself, because it may start a comment
  have hrest : Behind rest s := by
    have hlen := symbol?_length_le hopen
    obtain ⟨r, rfl, rfl⟩ := symbol?_eq_some_iff.mp hopen
    exact .of_length_lt ((skipSpacing_isSuffix r).trans (List.suffix_append _ r)) (by
      rw [show "\x7b".toList.length = 1 from rfl] at hlen
      omega)
  split
  · rfl
  · rw [mapEntries_congr hy s (h.from hrest) (Nat.lt_succ_self _) (Nat.lt_succ_self _)]

theorem called_congr (name : String) : called expr name s = called expr' name s :=
  bind_congr_ok (enclosed_congr hy h ")" (by decide)) fun _ _ => rfl

theorem functionReference_congr : functionReference expr s = functionReference expr' s := by
  unfold functionReference
  split
  · rfl
  · rename_i name rest hname
    exact called_congr hy (h.mono (identifier?_takes hname).2.isSuffix) name

theorem selectionStep_congr : selectionStep expr s = selectionStep expr' s := by
  unfold selectionStep
  split
  · rfl
  · rename_i name rest hname
    refine bind_congr_ok rfl fun (found, rest') hkey => ?_
    cases found with
    | some key => rfl
    | none =>
      obtain rfl := fixedKey_stays rest rest' hkey
      exact called_congr hy (h.mono (identifier?_takes hname).2.isSuffix) name

theorem named_congr {primary primary' : Rule Expr} (hprimary : AgreeBehind s primary primary') :
    named primary expr s = named primary' expr' s := by
  unfold named
  split
  · rfl
  · rename_i name rest hname
    have htakes := (identifier?_takes hname).2
    refine bind_congr_ok rfl fun (found, rest') hkey => ?_
    cases found with
    | some key => rfl
    | none =>
      obtain rfl := fixedKey_stays rest rest' hkey
      have hargs : arguments expr _ = arguments expr' _ :=
        enclosed_congr hy (h.mono htakes.isSuffix) ")" (by decide)
      refine bind_congr_ok hargs fun (found, rest') hargs => ?_
      cases found with
      | some args => rfl
      | none =>
        obtain rfl := enclosed_stays expr "(" ")" _ rest' hargs
        dsimp only
        rw [hprimary (skipSpacing _) (behind_of_takes htakes.skip)]

end Inner

/-! ## The ladder -/

theorem orElse_congr {α : Type} {first first' second second' : Rule α} {s : List Char} (hstays : Stays first)
    (h : first s = first' s) (h' : second s = second' s) :
    orElse first second s = orElse first' second' s := by
  refine bind_congr_ok h fun (found, rest) hfirst => ?_
  cases found with
  | some x => rfl
  | none =>
    obtain rfl := hstays s rest hfirst
    exact h'

theorem behind_congr {rule rule' : Rule Expr} {extend extend' : Expr → List Char → Except Fault (Expr × List Char)}
    {s : List Char} (h : rule s = rule' s)
    (hextend : ∀ e rest, rule s = .ok (some e, rest) → extend e rest = extend' e rest) :
    behind rule extend s = behind rule' extend' s := by
  refine bind_congr_ok h fun (found, rest) hfound => ?_
  cases found with
  | none => rfl
  | some e => simp only [hextend e rest hfound]

section Ladder

variable {primary primary' expr expr' : Rule Expr} {s : List Char} (hy : Yields WellFormed expr)
  (h : AgreeBehind s expr expr')
include hy h

theorem basic_congr (hprimary : AgreeBehind s primary primary') : basic primary expr s = basic primary' expr' s :=
  orElse_congr (listLiteral_stays expr) (listLiteral_congr hy h) <|
    orElse_congr (mapLiteral_stays expr) (mapLiteral_congr hy h) <|
      orElse_congr literal_stays rfl (named_congr hy h hprimary)

theorem withSteps_congr (base : Expr) : withSteps expr base s = withSteps expr' base s := by
  have hsteps : AgreeBehind s (selectionStep expr) (selectionStep expr') := fun t ht =>
    selectionStep_congr hy (h.mono ht.1)
  have hparts := parts_congr (fun _ _ => point?_takes) (selectionStep_yields hy) hsteps (Nat.le_refl s.length)
    (Nat.le_refl _)
  exact bind_congr_ok hparts fun _ _ => rfl

theorem withStages_congr (base : Expr) : withStages expr base s = withStages expr' base s := by
  have hstages : AgreeBehind s (functionReference expr) (functionReference expr') := fun t ht =>
    functionReference_congr hy (h.mono ht.1)
  have hparts := parts_congr (fun _ _ => stageMark_takes) (functionReference_yields hy) hstages
    (Nat.le_refl s.length) (Nat.le_refl _)
  exact bind_congr_ok hparts fun _ _ => rfl

theorem ternaryRule_congr {rule rule' : Rule Expr} (hrule : rule s = rule' s) (hr : Yields WellFormed rule) :
    ternaryRule rule expr s = ternaryRule rule' expr' s := by
  refine bind_congr_ok hrule fun (found, rest) hfound => ?_
  cases found with
  | none => rfl
  | some condition =>
    have hrest := (hr _ _ _ hfound).2.1
    dsimp only
    split
    · rfl
    rename_i rest₁ hmark
    have hrest₁ := hrest.trans (symbol?_takes (by decide) hmark).1
    refine bind_congr_ok (required_congr (h rest₁ (behind_of_takes hrest₁))) fun yes hyes => ?_
    have hrest₂ := hrest₁.trans (hy _ _ _ (required_eq_ok_iff.mp hyes)).2.1
    refine bind_congr_ok rfl fun rest₃ hcolon => ?_
    have hrest₃ := hrest₂.trans (symbol?_takes (by decide) (requiredSymbol_eq_ok_iff.mp hcolon)).1
    simp only [required_congr (h rest₃ (behind_of_takes hrest₃))]

/-- One rung looser: the tighter rule may be asked where the rung starts, values and expressions
    only behind that. -/
theorem loosen_congr (k : Nat) {tighter tighter' : Rule Expr} (hr : Yields WellFormed tighter)
    (htighter : AgreeFrom s tighter tighter') : loosen expr k tighter s = loosen expr' k tighter' s := by
  have hs := htighter s (List.suffix_refl s)
  unfold loosen
  split
  · exact behind_congr hs fun e rest hread => withSteps_congr hy (h.mono (hr _ _ _ hread).2.1.isSuffix) e
  · exact behind_congr hs fun e rest hread => withStages_congr hy (h.mono (hr _ _ _ hread).2.1.isSuffix) e
  · exact ternaryRule_congr hy h hs hr
  · exact level_congr htighter _ hr
  · exact level_congr htighter _ hr
  · exact negatable_congr htighter
  all_goals exact level_congr htighter _ hr

theorem ruleOf_congr (hyp : Yields WellFormed primary) (hprimary : AgreeBehind s primary primary') (k : Nat) :
    AgreeFrom s (ruleOf primary expr k) (ruleOf primary' expr' k) := by
  induction k with
  | zero =>
    intro t ht
    exact orElse_congr (parenthesized_stays expr) (parenthesized_congr (h.mono ht))
      (basic_congr hy (h.mono ht) (hprimary.mono ht))
  | succ k ih =>
    intro t ht
    exact loosen_congr hy (h.mono ht) k (ruleOf_yields hy hyp k) (ih.mono ht)

end Ladder

/-! ## Without bounds -/

theorem upTo_nil (n : Nat) : primaryUpTo n [] = .ok (none, []) ∧ expressionUpTo n [] = .ok (none, []) := by
  cases n with
  | zero => exact ⟨rfl, rfl⟩
  | succ n =>
    have habsent : ∀ k, ruleUpTo n k [] = .ok (none, []) := fun k =>
      ruleOf_absent (base_absent_of_stops Stops.nil) fun _ => rfl
    rw [primaryUpTo_succ, expressionUpTo_succ]
    exact ⟨habsent 2, habsent 11⟩

/-- Values and expressions are read alike within any bounds that are not below the number of
    characters left, and so is the failure to read them. -/
theorem upTo_congr {n m : Nat} {s : List Char} (hn : s.length ≤ n) (hm : s.length ≤ m) :
    primaryUpTo n s = primaryUpTo m s ∧ expressionUpTo n s = expressionUpTo m s := by
  -- on the number of characters left, since the rules are only asked for what is behind some
  induction hlen : s.length using Nat.strong_induction_on generalizing s n m with
  | _ len ih =>
    cases s with
    | nil => simp only [upTo_nil, and_self]
    | cons c s =>
      obtain ⟨n, rfl⟩ : ∃ k, n = k + 1 := ⟨n - 1, by simp only [List.length_cons] at hn; omega⟩
      obtain ⟨m, rfl⟩ : ∃ k, m = k + 1 := ⟨m - 1, by simp only [List.length_cons] at hm; omega⟩
      have hagree : ∀ t, Behind t (c :: s) →
          primaryUpTo n t = primaryUpTo m t ∧ expressionUpTo n t = expressionUpTo m t := by
        intro t ht
        have hshort := ht.length_lt
        exact ih t.length (hlen ▸ hshort) (by omega) (by omega) rfl
      obtain ⟨hyp, hy⟩ := upTo_yields n
      have hrung := fun k => ruleOf_congr hy (fun t ht => (hagree t ht).2) hyp (fun t ht => (hagree t ht).1) k
        (c :: s) (List.suffix_refl _)
      simp only [primaryUpTo_succ, expressionUpTo_succ, ruleUpTo, hrung, and_self]

/-- Reads a value with its steps and stages if one starts here. -/
def primary : Rule Expr := fun s => primaryUpTo s.length s

theorem primary_yields : Yields WellFormed primary := fun s => (upTo_yields s.length).1 s

theorem primaryUpTo_eq {n : Nat} {s : List Char} (h : s.length ≤ n) : primaryUpTo n s = primary s :=
  (upTo_congr h (Nat.le_refl _)).1

theorem expressionUpTo_eq {n : Nat} {s : List Char} (h : s.length ≤ n) : expressionUpTo n s = expression s :=
  (upTo_congr h (Nat.le_refl _)).2

/-- A rung of the ladder over values and expressions, without a bound. -/
def rung (k : Nat) : Rule Expr := ruleOf primary expression k

theorem ruleUpTo_eq {n : Nat} {s : List Char} (h : s.length ≤ n + 1) (k : Nat) : ruleUpTo n k s = rung k s := by
  have hagree : ∀ t, Behind t s → t.length ≤ n := by
    intro t ht
    have := ht.length_lt
    omega
  obtain ⟨hyp, hy⟩ := upTo_yields n
  exact ruleOf_congr hy (fun t ht => expressionUpTo_eq (hagree t ht)) hyp
    (fun t ht => primaryUpTo_eq (hagree t ht)) k s (List.suffix_refl s)

theorem primary_eq : primary = rung 2 := by
  funext s
  rw [← primaryUpTo_eq (Nat.le_succ s.length), primaryUpTo_succ]
  exact ruleUpTo_eq (Nat.le_succ _) 2

theorem expression_eq : expression = rung 11 := by
  funext s
  rw [← expressionUpTo_eq (Nat.le_succ s.length), expressionUpTo_succ]
  exact ruleUpTo_eq (Nat.le_succ _) 11

end TemplateEngine.Grammar
