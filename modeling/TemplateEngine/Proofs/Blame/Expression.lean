/-
  TemplateEngine.Proofs.Blame.Expression — the places that failures of expressions blame.

  A fault names what is left of the source and quotes what leads up to it. It lies within a
  text if what it names is left of that text, and what it quotes stands in front of that
  (`Fault.Within`). A rule that fails blames a place in the text that it was given
  (`Blames`): it fails where one of its parts does, and the parts read on from places
  further back in the same text.

  Proved:
  - `string?_blames`: a literal that has no end or a wrong escape is blamed in itself.
  - `expression_blames`: so is everything inside an expression.
-/

import TemplateEngine.Proofs.Document.Openers

namespace TemplateEngine

/-- What a failure of this kind quotes, and what stands at the place that it blames. -/
def ParseError.Kind.Quotes : ParseError.Kind → (quoted rest : List Char) → Prop
  | .missingEndCode directive, quoted, _ => Grammar.StartsWith directive quoted
  | .missingEndClause directive, quoted, _ => Grammar.StartsWith directive quoted
  | .duplicateBlock name, _, rest => name.toList <+: rest
  | .extendMayOnlyBlocks, quoted, rest => quoted <+: rest ∧ quoted.length ≤ 40 ∧ '\n' ∉ quoted
  | _, _, _ => True

/-- The fault blames a place in `s` and quotes, unless it quotes what follows, the text of `s`
    right in front of it. -/
structure Fault.Within (s : List Char) (f : Fault) : Prop where
  place : f.rest <:+ s
  quoted : f.kind ≠ .extendMayOnlyBlocks → f.quoted ++ f.rest <:+ s
  apt : f.kind.Quotes f.quoted f.rest

theorem Fault.Within.mono {s s' : List Char} {f : Fault} (h : f.Within s) (hs : s <:+ s') : f.Within s' :=
  ⟨h.place.trans hs, fun hkind => (h.quoted hkind).trans hs, h.apt⟩

theorem take_append_of_suffix {rest start : List Char} (h : rest <:+ start) :
    start.take (start.length - rest.length) ++ rest = start := by
  obtain ⟨piece, rfl⟩ := h
  simp

namespace Grammar

open Scan TemplateEngine.Except
open TemplateEngine.Expr (WellFormed)

/-- Whatever makes the calculation fail lies within `s`. -/
def Blames {α : Type} (s : List Char) (x : Except Fault α) : Prop := ∀ f, x = .error f → f.Within s

namespace Blames

variable {α β : Type} {s s' : List Char} {x : Except Fault α}

theorem ok (a : α) : Blames s (.ok a) := nofun

theorem mono (h : Blames s x) (hs : s <:+ s') : Blames s' x := fun f hf => (h f hf).mono hs

theorem bind {next : α → Except Fault β} (h : Blames s x) (hnext : ∀ a, x = .ok a → Blames s (next a)) :
    Blames s (x >>= next) := by
  intro f hf
  cases x with
  | ok a => exact hnext a rfl f hf
  | error e =>
    obtain rfl : e = f := Except.error.inj hf
    exact h e rfl

/-- The fault quotes everything from `start` on. -/
theorem since_quoting {kind : ParseError.Kind} {start rest : List Char} (hrest : rest <:+ start)
    (hkind : ∀ quoted, start = quoted ++ rest → kind.Quotes quoted rest) :
    Blames start (.error (.since kind start rest) : Except Fault α) := by
  intro f hf
  obtain rfl := Except.error.inj hf
  have hsplit := take_append_of_suffix hrest
  refine ⟨hrest, fun _ => ?_, hkind _ hsplit.symm⟩
  show start.take (start.length - rest.length) ++ rest <:+ start
  rw [hsplit]

/-- Kinds that ask nothing of what is quoted. -/
theorem since {kind : ParseError.Kind} {start rest : List Char} (hrest : rest <:+ start)
    (hkind : ∀ quoted rest, kind.Quotes quoted rest) :
    Blames start (.error (.since kind start rest) : Except Fault α) :=
  since_quoting hrest fun _ _ => hkind _ _

end Blames

/-- Whatever makes the rule fail lies within the text it is given. -/
def Blaming {α : Type} (rule : Rule α) : Prop := ∀ s, Blames s (rule s)

/-! ## Strings -/

theorem stringBody_blames (quote : Char) (start : List Char) (n : Nat) :
    ∀ s, s <:+ start → Blames start (stringBody quote start n s) := by
  induction n with
  | zero =>
    intro s hs
    exact .since hs fun _ _ => trivial
  | succ n ih =>
    intro s hs
    unfold stringBody
    split
    · exact .since hs fun _ _ => trivial
    rename_i c rest
    have hrest : rest <:+ start := (List.suffix_cons c rest).trans hs
    split
    · exact .ok _
    split
    · split
      · rename_i decoded rest' hescape
        exact .bind (ih rest' ((escape?_isSuffix hescape).trans hrest)) fun _ _ => .ok _
      · exact .since hs fun _ _ => trivial
    split
    · exact .since hs fun _ _ => trivial
    · exact .bind (ih rest hrest) fun _ _ => .ok _

theorem string?_blames : Blaming string? := by
  intro s
  unfold string?
  split
  · exact .ok _
  rename_i c rest
  split
  · exact .bind (stringBody_blames c (c :: rest) _ rest (List.suffix_cons c rest)) fun _ _ => .ok _
  · exact .ok _

/-! ## Parts of expressions -/

theorem requiredSymbol_blames (text : String) {start rest : List Char} (h : rest <:+ start) :
    Blames start (requiredSymbol text start rest) := by
  unfold requiredSymbol
  split
  · exact .ok _
  · exact .since h fun _ _ => trivial

theorem required_blames {rule : Rule Expr} (hs : Stays rule) (h : Blaming rule) (s : List Char) :
    Blames s (required rule s) := by
  refine .bind (h s) fun (found, rest) hfound => ?_
  cases found with
  | some e => exact .ok _
  | none =>
    obtain rfl := hs s rest hfound
    exact .since (List.suffix_refl _) fun _ _ => trivial

theorem orElse_blames {α : Type} {first second : Rule α} (hs : Stays first) (h : Blaming first)
    (h' : Blaming second) : Blaming (orElse first second) := by
  intro s
  refine .bind (h s) fun (found, rest) hfound => ?_
  cases found with
  | some x => exact .ok _
  | none =>
    obtain rfl := hs s rest hfound
    exact h' _

theorem fixedKey_blames : Blaming fixedKey := by
  intro s
  unfold fixedKey
  split
  · exact .ok _
  · rename_i rest hopen
    have hrest := (symbol?_takes (by decide) hopen).1.isSuffix
    refine .bind ((string?_blames rest).mono hrest) fun found _ => ?_
    split
    · exact .ok _
    · split <;> exact .ok _

theorem mapKey_blames : Blaming mapKey := by
  intro s
  unfold mapKey
  split
  · exact .ok _
  · exact string?_blames s

theorem wordLiteral_blames (word : String) (l : Literal) : Blaming (wordLiteral word l) := by
  intro s
  unfold wordLiteral
  split <;> exact .ok _

theorem numeral_blames {α : Type} (scan : Scanner α) (l : α → Literal) : Blaming (numeral scan l) := by
  intro s
  unfold numeral
  split <;> exact .ok _

theorem quotedLiteral_blames : Blaming quotedLiteral := by
  intro s
  refine .bind (string?_blames s) fun found _ => ?_
  split <;> exact .ok _

theorem scalar_blames : Blaming scalar :=
  orElse_blames quotedLiteral_stays quotedLiteral_blames <|
    orElse_blames (wordLiteral_stays _ _) (wordLiteral_blames _ _) <|
      orElse_blames (wordLiteral_stays _ _) (wordLiteral_blames _ _) <|
        orElse_blames (numeral_stays double_eq _) (numeral_blames _ _) <|
          orElse_blames (numeral_stays integer_eq _) (numeral_blames _ _) (wordLiteral_blames _ _)

theorem literal_blames : Blaming literal := fun s => .bind (scalar_blames s) fun _ _ => .ok _

/-! ## Rounds -/

/-- Rounds blame a text if each of them does, wherever in the text it stands. -/
theorem rounds_blames {α : Type} {good : α → Prop} {round : Rule α} {start : List Char} (hy : Yields good round)
    (h : ∀ s, s <:+ start → Blames start (round s)) (n : Nat) :
    ∀ s, s <:+ start → Blames start (rounds round n s) := by
  induction n with
  | zero => exact fun _ _ => .ok _
  | succ n ih =>
    intro s hs
    refine .bind (h s hs) fun found hfound => ?_
    split
    · exact .ok _
    · rename_i x rest
      exact .bind (ih rest ((hy _ _ _ hfound).2.1.isSuffix.trans hs)) fun _ _ => .ok _

theorem rounds_blaming {α : Type} {good : α → Prop} {round : Rule α} (hy : Yields good round) (h : Blaming round)
    (n : Nat) : ∀ s, Blames s (rounds round n s) :=
  fun s => rounds_blames hy (fun t ht => (h t).mono ht) n s (List.suffix_refl s)

/-! ## Chains of operators -/

section Operands

variable {operand : Rule Expr} (hy : Yields WellFormed operand) (hs : Stays operand) (h : Blaming operand)
include h

theorem continuation_blames (operators : List Operator) : Blaming (continuation operators operand) := by
  intro s
  unfold continuation
  split
  · exact .ok _
  · rename_i op rest hop
    refine .bind ((h rest).mono (operator?_takes hop).2.1.isSuffix) fun found _ => ?_
    split <;> exact .ok _

include hy

theorem level_blames (l : Operator.Level) : Blaming (level l operand) := by
  intro s
  refine .bind (h s) fun found hfound => ?_
  split
  · exact .ok _
  · rename_i first rest
    have hrest := (hy _ _ _ hfound).2.1.isSuffix
    have hmore : Blames rest (chainTail l.operators operand rest.length rest) := by
      rw [chainTail_eq_rounds]
      exact rounds_blaming (continuation_yields hy) (continuation_blames h l.operators) _ rest
    exact .bind (hmore.mono hrest) fun _ _ => .ok _

omit hy in
include hs in
theorem negatable_blames : Blaming (negatable operand) := by
  intro s
  unfold negatable
  split
  · exact h s
  · rename_i rest hnot
    have hrest := (keyword?_takes (by decide) hnot).1.isSuffix
    refine .bind ((h rest).mono hrest) fun (found, rest') hfound => ?_
    cases found with
    | some e => exact .ok _
    | none =>
      obtain rfl := hs rest rest' hfound
      exact .since hrest fun _ _ => trivial

end Operands

/-! ## Forms in brackets and names -/

section Inner

variable {expr : Rule Expr} (hy : Yields WellFormed expr) (hs : Stays expr) (h : Blaming expr)
include hy hs h

omit hy in
theorem furtherMember_blames : Blaming (furtherMember expr) := by
  intro s
  unfold furtherMember
  split
  · exact .ok _
  · rename_i rest hcomma
    have hrest := (symbol?_takes (by decide) hcomma).1.isSuffix
    exact .bind ((required_blames hs h rest).mono hrest) fun _ _ => .ok _

theorem afterCommas_blames (n : Nat) (s : List Char) : Blames s (afterCommas expr n s) := by
  rw [afterCommas_eq_rounds]
  exact rounds_blaming (furtherMember_yields hy) (furtherMember_blames hs h) n s

theorem enclosed_blames {opening : String} (closing : String) (ho : startsFirm opening = true) :
    Blaming (enclosed opening closing expr) := by
  intro s
  unfold enclosed
  split
  · exact .ok _
  rename_i rest hopen
  have hrest := (symbol?_takes ho hopen).1.isSuffix
  split
  · exact .ok _
  refine .bind ((required_blames hs h rest).mono hrest) fun found hfound => ?_
  have hrest' := (hy _ _ _ (required_eq_ok_iff.mp hfound)).2.1.isSuffix.trans hrest
  refine .bind ((afterCommas_blames hy hs h _ found.2).mono hrest') fun more hmore => ?_
  have hrest'' := (afterCommas_yields hy hmore).isSuffix.trans hrest'
  exact .bind (requiredSymbol_blames closing hrest'') fun _ _ => .ok _

theorem arguments_blames : Blaming (arguments expr) := enclosed_blames hy hs h ")" (by decide)

theorem listLiteral_blames : Blaming (listLiteral expr) := by
  intro s
  rw [listLiteral_eq]
  split
  · exact .ok _
  split
  · exact .ok _
  · exact .bind (enclosed_blames hy hs h "]" (by decide) s) fun _ _ => .ok _

theorem mapEntries_blames (start : List Char) (n : Nat) :
    ∀ s, s <:+ start → Blames start (mapEntries expr start n s) := by
  induction n with
  | zero =>
    intro s hstart
    exact .since hstart fun _ _ => trivial
  | succ n ih =>
    intro s hstart
    refine .bind ((mapKey_blames s).mono hstart) fun (found, rest) hfound => ?_
    cases found with
    | none =>
      obtain rfl := mapKey_stays s rest hfound
      exact .since hstart fun _ _ => trivial
    | some key =>
    have hrest := (mapKey_takes hfound).skip.isSuffix.trans hstart
    refine .bind (requiredSymbol_blames ":" hrest) fun rest' hcolon => ?_
    have hrest' := (symbol?_takes (by decide) (requiredSymbol_eq_ok_iff.mp hcolon)).1.isSuffix.trans hrest
    refine .bind ((required_blames hs h rest').mono hrest') fun value hvalue => ?_
    have hrest'' := (hy _ _ _ (required_eq_ok_iff.mp hvalue)).2.1.isSuffix.trans hrest'
    dsimp only
    split
    · rename_i rest₃ hcomma
      have hrest₃ := (symbol?_takes (by decide) hcomma).1.isSuffix.trans hrest''
      exact .bind (ih rest₃ hrest₃) fun _ _ => .ok _
    · exact .bind (requiredSymbol_blames _ hrest'') fun _ _ => .ok _

theorem mapLiteral_blames : Blaming (mapLiteral expr) := by
  intro s
  unfold mapLiteral
  split
  · exact .ok _
  rename_i rest hopen
  obtain ⟨r, rfl, rfl⟩ := symbol?_eq_some_iff.mp hopen
  have hrest := (skipSpacing_isSuffix r).trans (List.suffix_append "\x7b".toList r)
  split
  · exact .ok _
  · exact .bind (mapEntries_blames hy hs h _ _ _ hrest) fun _ _ => .ok _

theorem called_blames (name : String) : Blaming (called expr name) := by
  intro s
  refine .bind (arguments_blames hy hs h s) fun found _ => ?_
  split <;> exact .ok _

theorem functionReference_blames : Blaming (functionReference expr) := by
  intro s
  unfold functionReference
  split
  · exact .ok _
  · rename_i name rest hname
    exact (called_blames hy hs h name rest).mono (identifier?_takes hname).2.isSuffix

theorem selectionStep_blames : Blaming (selectionStep expr) := by
  intro s
  unfold selectionStep
  split
  · exact .ok _
  · rename_i name rest hname
    have hrest := (identifier?_takes hname).2.isSuffix
    refine .bind ((fixedKey_blames rest).mono hrest) fun (found, rest') hfound => ?_
    cases found with
    | some key => exact .ok _
    | none =>
      obtain rfl := fixedKey_stays rest rest' hfound
      exact (called_blames hy hs h name _).mono hrest

theorem named_blames {primary : Rule Expr} (hprimary : Blaming primary) : Blaming (named primary expr) := by
  intro s
  unfold named
  split
  · exact .ok _
  rename_i name rest hname
  have hrest := (identifier?_takes hname).2.isSuffix
  refine .bind ((fixedKey_blames rest).mono hrest) fun (key, rest') hkey => ?_
  cases key with
  | some key => exact .ok _
  | none =>
  obtain rfl := fixedKey_stays rest rest' hkey
  refine .bind ((arguments_blames hy hs h _).mono hrest) fun (args, rest') hargs => ?_
  cases args with
  | some args => exact .ok _
  | none =>
  obtain rfl := enclosed_stays expr "(" ")" _ rest' hargs
  dsimp only
  split
  · exact .ok _
  · have hskipped := (skipSpacing_isSuffix _).trans hrest
    refine .bind ((hprimary _).mono hskipped) fun argument _ => ?_
    split <;> exact .ok _

theorem parenthesized_blames : Blaming (parenthesized expr) := by
  intro s
  unfold parenthesized
  split
  · exact .ok _
  · rename_i rest hopen
    have hrest := (symbol?_takes (by decide) hopen).1.isSuffix
    refine .bind ((required_blames hs h rest).mono hrest) fun inner hinner => ?_
    have hrest' := (hy _ _ _ (required_eq_ok_iff.mp hinner)).2.1.isSuffix.trans hrest
    exact .bind (requiredSymbol_blames ")" hrest') fun _ _ => .ok _

end Inner

/-! ## The ladder -/

theorem markedPart_blames {opening : List Char → Option (List Char)} {part : Rule Expr}
    (hopening : ∀ s r, opening s = some r → Takes s r) (h : Blaming part) : Blaming (markedPart opening part) := by
  intro s
  unfold markedPart
  split
  · exact .ok _
  · rename_i rest hopen
    refine .bind ((h rest).mono (hopening s rest hopen).isSuffix) fun found _ => ?_
    split <;> exact .ok _

theorem parts_blames {opening : List Char → Option (List Char)} {part : Rule Expr} {good : Expr → Prop}
    (hopening : ∀ s r, opening s = some r → Takes s r) (hy : Yields good part) (h : Blaming part) (n : Nat)
    (s : List Char) : Blames s (parts opening part n s) := by
  rw [parts_eq_rounds]
  exact rounds_blaming (markedPart_yields hopening hy) (markedPart_blames hopening h) n s

/-- What is read behind a rule is blamed within the text of the rule. -/
theorem behind_blames {rule : Rule Expr} {extend : Expr → List Char → Except Fault (Expr × List Char)}
    (hy : Yields WellFormed rule) (h : Blaming rule) (hextend : ∀ e s, Blames s (extend e s)) :
    Blaming (behind rule extend) := by
  intro s
  refine .bind (h s) fun found hfound => ?_
  split
  · exact .ok _
  · rename_i e rest
    have hrest := (hy _ _ _ hfound).2.1.isSuffix
    exact .bind ((hextend e rest).mono hrest) fun _ _ => .ok _

section Ladder

variable {primary expr : Rule Expr} (hy : Yields WellFormed expr) (hs : Stays expr) (h : Blaming expr)
include hy hs h

theorem withSteps_blames (base : Expr) (s : List Char) : Blames s (withSteps expr base s) :=
  .bind (parts_blames (fun _ _ => point?_takes) (selectionStep_yields hy) (selectionStep_blames hy hs h) _ s)
    fun _ _ => .ok _

theorem withStages_blames (base : Expr) (s : List Char) : Blames s (withStages expr base s) :=
  .bind
    (parts_blames (fun _ _ => stageMark_takes) (functionReference_yields hy) (functionReference_blames hy hs h) _ s)
    fun _ _ => .ok _

theorem ternaryRule_blames {rule : Rule Expr} (hrule : Yields WellFormed rule) (hblames : Blaming rule) :
    Blaming (ternaryRule rule expr) := by
  intro s
  refine .bind (hblames s) fun found hfound => ?_
  split
  · exact .ok _
  rename_i condition rest
  have hrest := (hrule _ _ _ hfound).2.1.isSuffix
  split
  · exact .ok _
  rename_i rest₁ hmark
  have hrest₁ := (symbol?_takes (by decide) hmark).1.isSuffix.trans hrest
  refine .bind ((required_blames hs h rest₁).mono hrest₁) fun yes hyes => ?_
  have hrest₂ := (hy _ _ _ (required_eq_ok_iff.mp hyes)).2.1.isSuffix.trans hrest₁
  refine .bind (requiredSymbol_blames ":" hrest₂) fun rest₃ hcolon => ?_
  have hrest₃ := (symbol?_takes (by decide) (requiredSymbol_eq_ok_iff.mp hcolon)).1.isSuffix.trans hrest₂
  exact .bind ((required_blames hs h rest₃).mono hrest₃) fun _ _ => .ok _

theorem loosen_blames (k : Nat) {tighter : Rule Expr} (hty : Yields WellFormed tighter) (hts : Stays tighter)
    (ht : Blaming tighter) : Blaming (loosen expr k tighter) := by
  unfold loosen
  split
  · exact behind_blames hty ht (withSteps_blames hy hs h)
  · exact behind_blames hty ht (withStages_blames hy hs h)
  · exact ternaryRule_blames hy hs h hty ht
  · exact level_blames hty ht _
  · exact level_blames hty ht _
  · exact negatable_blames hts ht
  all_goals exact level_blames hty ht _

theorem ruleOf_blames (hpy : Yields WellFormed primary) (hp : Blaming primary) (k : Nat) :
    Blaming (ruleOf primary expr k) := by
  induction k with
  | zero =>
    exact orElse_blames (parenthesized_stays expr) (parenthesized_blames hy hs h) <|
      orElse_blames (listLiteral_stays expr) (listLiteral_blames hy hs h) <|
        orElse_blames (mapLiteral_stays expr) (mapLiteral_blames hy hs h) <|
          orElse_blames literal_stays literal_blames (named_blames hy hs h hp)
  | succ k ih => exact loosen_blames hy hs h k (ruleOf_yields hy hpy k) (ruleOf_stays primary expr k) ih

end Ladder

theorem upTo_blames (n : Nat) : Blaming (primaryUpTo n) ∧ Blaming (expressionUpTo n) := by
  induction n with
  | zero => exact ⟨fun _ => .ok _, fun _ => .ok _⟩
  | succ n ih =>
    obtain ⟨hpy, hy⟩ := upTo_yields n
    have hs := (upTo_stays n).2
    refine ⟨fun s => ?_, fun s => ?_⟩
    · rw [primaryUpTo_succ]
      exact ruleOf_blames hy hs ih.2 hpy ih.1 2 s
    · rw [expressionUpTo_succ]
      exact ruleOf_blames hy hs ih.2 hpy ih.1 11 s

theorem expression_blames : Blaming expression := fun s => (upTo_blames s.length).2 s

theorem requiredExpression_blames (s : List Char) : Blames s (required expression s) :=
  required_blames expression_stays expression_blames s

end TemplateEngine.Grammar
