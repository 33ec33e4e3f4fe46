/-
  TemplateEngine.Proofs.Blame.Statements — the places that failures of statements blame.

  A statement that is left open quotes everything from its first tag on. The tag was read
  up to its word by then, so the word is part of what is quoted (`Opened`). The rules for
  statements blame places in the text that they are given if the rule for content does.

  Proved:
  - `block_blames`, `loop_blames`, `conditional_blames`, `statement_blames`: one statement.
  - `contentUpTo_blames`: content of any length.
-/

import TemplateEngine.Proofs.Blame.Expression

namespace TemplateEngine.Grammar

open Scan TemplateEngine.Except
open TemplateEngine.Expr (WellFormed)

variable {s rest start : List Char} {names : List String}

/-! ## Tags -/

/-- The directive's first tag is at `start`, and its mark and its word are ahead of `rest`. -/
structure Opened (directive : Directive) (start rest : List Char) : Prop where
  isSuffix : rest <:+ start
  starts : ∀ quoted r, r <:+ rest → start = quoted ++ r → StartsWith directive quoted

theorem Opened.behind {directive : Directive} {r : List Char} (h : Opened directive start rest) (hr : r <:+ rest) :
    Opened directive start r :=
  ⟨hr.trans h.isSuffix, fun quoted r' hr' => h.starts quoted r' (hr'.trans hr)⟩

/-- The tag is still there when what follows its word is cut off. -/
theorem opens_quoted {word : String} (hword : isKeyword word = true) (h : openTag? word s = some rest)
    {quoted r : List Char} (hr : r <:+ rest) (hs : s = quoted ++ r) : Opens word quoted := by
  obtain ⟨inside, hmark, hread⟩ := openTag?_eq_some_iff.mp h
  obtain rfl : s = '\x7b' :: '%' :: inside := mark?_eq_some_iff.mp hmark
  obtain ⟨-, w, hw, hinside⟩ := spacing_skipSpacing inside
  obtain ⟨t, ht, hstop, rfl⟩ := (keyword?_eq_some_iff hword).mp hread
  obtain ⟨t', rfl⟩ := hr.trans (skipSpacing_isSuffix t)
  have hquoted : quoted ++ r = '\x7b' :: '%' :: (w ++ (word.toList ++ t')) ++ r := by
    rw [← hs, hinside, ht]
    simp
  exact ⟨w, t', hw, hstop.of_append, List.append_cancel_right hquoted⟩

theorem opened_of_openTag? {directive : Directive} (hword : isKeyword directive.word = true)
    (h : openTag? directive.word s = some rest) : Opened directive s rest := by
  refine ⟨(openTag?_opens hword h).2.1.isSuffix, fun quoted r hr hs => ?_⟩
  have hopens := opens_quoted hword h hr hs
  cases directive with
  | output => exact absurd hword (by decide)
  | _ => exact hopens

theorem behindMark_isSuffix (s : List Char) : ((mark? "\x7b%" s).map skipSpacing).getD s <:+ s := by
  cases hmark : mark? "\x7b%" s with
  | none => exact List.suffix_refl s
  | some r =>
    rw [mark?_eq_some_iff.mp hmark]
    exact (skipSpacing_isSuffix r).trans (List.suffix_append _ r)

theorem openTag_blames (word : String) (s : List Char) : Blames s (openTag word s) := by
  unfold openTag
  split
  · exact .ok _
  · exact .since (behindMark_isSuffix s) fun _ _ => trivial

theorem openTag_isSuffix {word : String} (hword : isKeyword word = true) (h : openTag word s = .ok rest) :
    rest <:+ s :=
  (openTag?_opens hword (openTag_eq_ok_iff.mp h)).2.1.isSuffix

theorem closeTag_blames {directive : Directive} (h : Opened directive start rest) :
    Blames start (closeTag directive start rest) := by
  have hskipped := h.behind (skipSpacing_isSuffix rest)
  simp only [closeTag]
  split
  · exact .ok _
  · exact .since_quoting hskipped.isSuffix fun quoted hs => hskipped.starts quoted _ (List.suffix_refl _) hs

theorem endClause_blames {word : String} {directive : Directive} (hword : isKeyword word = true)
    (h : Opened directive start rest) : Blames start (endClause word directive start rest) := by
  unfold endClause
  dsimp only
  by_cases htag : tagWord? rest = some word
  · rw [if_neg (not_not_intro htag)]
    refine .bind ((openTag_blames word rest).mono h.isSuffix) fun r hr => closeTag_blames ?_
    have hbehind := h.behind (openTag_isSuffix hword hr)
    split
    · cases hname : identifier? r with
      | none => exact hbehind
      | some found => exact hbehind.behind (identifier?_takes hname).2.isSuffix
    · exact hbehind
  · rw [if_pos htag]
    refine .bind (.since_quoting h.isSuffix fun quoted hs => ?_) fun _ hthrow => nomatch hthrow
    exact h.starts quoted rest (List.suffix_refl rest) hs

theorem expected_blames {α : Type} (what : String) (h : rest <:+ start) (found : Option (α × List Char)) :
    Blames start (expected what start rest found) := by
  unfold expected
  split
  · exact .ok _
  · exact .since h fun _ _ => trivial

theorem templateName_blames (h : rest <:+ start) : Blames start (templateName start rest) := by
  refine .bind ((string?_blames rest).mono h) fun (found, rest') hfound => ?_
  cases found with
  | some name => exact .ok _
  | none =>
    obtain rfl := string?_stays hfound
    exact .since h fun _ _ => trivial

theorem templateName_isSuffix {name : String} (h : templateName start s = .ok (name, rest)) : rest <:+ s := by
  obtain ⟨piece, -, -, hs, -⟩ := string?_takes (templateName_eq_ok_iff.mp h)
  exact ⟨piece, hs.symm⟩

/-- What is read behind a tag's word stands behind it. -/
theorem required_isSuffix {e : Expr} (h : required expression s = .ok (e, rest)) : rest <:+ s :=
  (expression_yields _ _ _ (required_eq_ok_iff.mp h)).2.1.isSuffix

/-! ## Statements without content -/

theorem output_blames (source : List Char) (hmark : (mark? "\x7b\x7b" s).isSome) :
    Blames s (output source s) := by
  obtain ⟨t, ht⟩ := Option.isSome_iff_exists.mp hmark
  obtain rfl : s = '\x7b' :: '\x7b' :: t := mark?_eq_some_iff.mp ht
  have hopened : Opened .output ('\x7b' :: '\x7b' :: t) t := by
    refine ⟨List.suffix_append ['\x7b', '\x7b'] t, fun quoted r hr hs => ?_⟩
    obtain ⟨t', rfl⟩ := hr
    have hquoted : quoted = '\x7b' :: '\x7b' :: t' := List.append_cancel_right hs.symm
    exact ⟨t', hquoted⟩
  have hinside := hopened.behind (skipSpacing_isSuffix t)
  unfold output
  rw [ht, Option.getD_some]
  refine .bind ((requiredExpression_blames _).mono hinside.isSuffix) fun found hfound => ?_
  have hbehind := (hinside.behind (required_isSuffix hfound)).behind (skipSpacing_isSuffix found.2)
  dsimp only
  split
  · exact .ok _
  · refine .since_quoting hbehind.isSuffix fun quoted hs => ?_
    exact hbehind.starts quoted _ (List.suffix_refl _) hs

theorem inclusion_blames (source s : List Char) : Blames s (inclusion source s) := by
  refine .bind (openTag_blames "include" s) fun r hr => ?_
  have hopened : Opened .inclusion s r := opened_of_openTag? (by decide) (openTag_eq_ok_iff.mp hr)
  refine .bind (templateName_blames hopened.isSuffix) fun found hfound => ?_
  exact .bind (closeTag_blames (hopened.behind (templateName_isSuffix hfound))) fun _ _ => .ok _

theorem assignment_blames (source s : List Char) : Blames s (assignment source s) := by
  refine .bind (openTag_blames "set" s) fun r hr => ?_
  have hopened : Opened .assignment s r := opened_of_openTag? (by decide) (openTag_eq_ok_iff.mp hr)
  refine .bind (expected_blames "variable name" hopened.isSuffix _) fun named hnamed => ?_
  have hname := hopened.behind (identifier?_takes (expected_eq_ok_iff.mp hnamed)).2.skip.isSuffix
  refine .bind (requiredSymbol_blames "=" hname.isSuffix) fun r' hr' => ?_
  have hequals := hname.behind (symbol?_takes (by decide) (requiredSymbol_eq_ok_iff.mp hr')).1.isSuffix
  refine .bind ((requiredExpression_blames r').mono hequals.isSuffix) fun found hfound => ?_
  exact .bind (closeTag_blames (hequals.behind (required_isSuffix hfound))) fun _ _ => .ok _

theorem verbatim_blames (s : List Char) : Blames s (verbatim s) := by
  refine .bind (openTag_blames "verbatim" s) fun r hr => ?_
  have hopened : Opened .verbatim s r := opened_of_openTag? (by decide) (openTag_eq_ok_iff.mp hr)
  refine .bind (closeTag_blames hopened) fun inside hinside => ?_
  have hclosed := hopened.behind (closeTag_isSuffix hinside)
  split
  · refine .since_quoting List.nil_suffix fun quoted hs => ?_
    exact hclosed.starts quoted [] List.nil_suffix hs
  · rename_i body r' hbody
    have hend := hclosed.behind ⟨body, (verbatimBody?_eq_append hbody).symm⟩
    refine .bind ((openTag_blames "endverbatim" r').mono hend.isSuffix) fun r'' hr'' => ?_
    exact .bind (closeTag_blames (hend.behind (openTag_isSuffix (by decide) hr''))) fun _ _ => .ok _

/-! ## Statements with content -/

theorem loopVariable_blames (h : rest <:+ start) : Blames start (loopVariable start rest) :=
  .bind (expected_blames "loop variable" h _) fun _ _ => .ok _

theorem loopTarget_blames (h : rest <:+ start) : Blames start (loopTarget start rest) := by
  refine .bind (loopVariable_blames h) fun first hfirst => ?_
  have hrest := (loopVariable_yields hfirst).2.1.isSuffix.trans h
  dsimp only
  split
  · exact .ok _
  · rename_i r hcomma
    have hr := (symbol?_takes (by decide) hcomma).1.isSuffix.trans hrest
    exact .bind (loopVariable_blames hr) fun _ _ => .ok _

theorem loopFilters_blames (n : Nat) (h : rest <:+ start) : Blames start (loopFilters start n rest) := by
  rw [loopFilters_eq_rounds]
  refine rounds_blames furtherFilter_yields (fun s hs => ?_) n rest h
  unfold furtherFilter
  split
  · exact .ok _
  · rename_i r hmark
    have hr := (filterMark_takes hmark).1.isSuffix.trans hs
    refine .bind ((functionReference_blames expression_yields expression_stays expression_blames r).mono hr)
      fun (found, rest') hfound => ?_
    cases found with
    | some filter => exact .ok _
    | none =>
      obtain rfl := functionReference_stays expression r rest' hfound
      exact .since hr fun _ _ => trivial

section Inside

variable (source : List Char) {content : Statement Content}
  (hy : ∀ names s read, content names s = .ok read → read.rest <:+ s)
  (h : ∀ names s, Blames s (content names s))
include hy h

theorem block_blames (names : List String) (s : List Char) : Blames s (block source content names s) := by
  refine .bind (openTag_blames "block" s) fun named hnamed => ?_
  have hopened : Opened .block s named := opened_of_openTag? (by decide) (openTag_eq_ok_iff.mp hnamed)
  refine .bind (expected_blames "block name" hopened.isSuffix _) fun found hfound => ?_
  obtain ⟨name, r⟩ := found
  have hread := expected_eq_ok_iff.mp hfound
  have hbehind := hopened.behind (identifier?_takes hread).2.isSuffix
  refine .bind (closeTag_blames hbehind) fun inside hinside => ?_
  dsimp only
  split
  · refine .bind (.since_quoting hopened.isSuffix fun _ _ => ?_) fun _ hthrow => nomatch hthrow
    exact ⟨r, (identifier?_eq_some_iff.mp hread).2.1.symm⟩
  have hclosed := hbehind.behind (closeTag_isSuffix hinside)
  refine .bind ((h _ inside).mono hclosed.isSuffix) fun body hbody => ?_
  exact .bind (endClause_blames (by decide) (hclosed.behind (hy _ _ _ hbody))) fun _ _ => .ok _

theorem loop_blames (names : List String) (s : List Char) : Blames s (loop source content names s) := by
  refine .bind (openTag_blames "for" s) fun r hr => ?_
  have hopened : Opened .loop s r := opened_of_openTag? (by decide) (openTag_eq_ok_iff.mp hr)
  refine .bind (loopTarget_blames hopened.isSuffix) fun target htarget => ?_
  have htarget := hopened.behind (loopTarget_yields htarget).2.1.isSuffix
  dsimp only
  split
  case h_2 =>
    exact .bind (.since htarget.isSuffix fun _ _ => trivial) fun _ hthrow => nomatch hthrow
  rename_i r' hword
  rw [pure_bind]
  have hin := htarget.behind (keyword?_takes (by decide) hword).1.isSuffix
  refine .bind ((requiredExpression_blames r').mono hin.isSuffix) fun collection hcollection => ?_
  have hcollection := hin.behind (required_isSuffix hcollection)
  refine .bind (loopFilters_blames _ hcollection.isSuffix) fun filters hfilters => ?_
  have hfilters := hcollection.behind (loopFilters_yields hfilters).isSuffix
  refine .bind (closeTag_blames hfilters) fun inside hinside => ?_
  have hclosed := hfilters.behind (closeTag_isSuffix hinside)
  refine .bind ((h names inside).mono hclosed.isSuffix) fun body hbody => ?_
  exact .bind (endClause_blames (by decide) (hclosed.behind (hy _ _ _ hbody))) fun _ _ => .ok _

omit hy in
theorem branch_blames (names : List String) (hopened : Opened .conditional start rest) :
    Blames start (branch content start names rest) := by
  refine .bind ((requiredExpression_blames rest).mono hopened.isSuffix) fun condition hcondition => ?_
  have hcondition := hopened.behind (required_isSuffix hcondition)
  refine .bind (closeTag_blames hcondition) fun inside hinside => ?_
  have hclosed := hcondition.behind (closeTag_isSuffix hinside)
  exact .bind ((h names inside).mono hclosed.isSuffix) fun _ _ => .ok _

omit h in
theorem branch_isSuffix {read : Read (Expr × Content)} (hread : branch content start names s = .ok read) :
    read.rest <:+ s := by
  obtain ⟨condition, r, body, -, htakes, hbody, rfl⟩ := branch_yields hread
  exact (hy _ _ _ hbody).trans htakes.isSuffix

theorem furtherBranches_blames (n : Nat) : ∀ names rest, Opened .conditional start rest →
    Blames start (furtherBranches content start n names rest) := by
  induction n with
  | zero => exact fun _ _ _ => .ok _
  | succ n ih =>
    intro names rest hopened
    unfold furtherBranches
    split
    · refine .bind ((openTag_blames "elseif" rest).mono hopened.isSuffix) fun r hr => ?_
      have hr := hopened.behind (openTag_isSuffix (by decide) hr)
      refine .bind (branch_blames h names hr) fun first hfirst => ?_
      exact .bind (ih _ _ (hr.behind (branch_isSuffix hy hfirst))) fun _ _ => .ok _
    · exact .ok _

omit h in
theorem furtherBranches_isSuffix {n : Nat} : ∀ {names s} {read : Read (List (Expr × Content))},
    furtherBranches content start n names s = .ok read → read.rest <:+ s := by
  induction n with
  | zero =>
    intro names s read hread
    cases hread
    exact List.suffix_refl _
  | succ n ih =>
    intro names s read hread
    rcases furtherBranches_yields hread with rfl | ⟨r, first, more, htakes, hfirst, hmore, rfl⟩
    · exact List.suffix_refl _
    · exact ((ih hmore).trans (branch_isSuffix hy hfirst)).trans htakes.isSuffix

omit hy in
theorem otherwise_blames (names : List String) (hopened : Opened .conditional start rest) :
    Blames start (otherwise content start names rest) := by
  unfold otherwise
  split
  · refine .bind ((openTag_blames "else" rest).mono hopened.isSuffix) fun r hr => ?_
    have hr := hopened.behind (openTag_isSuffix (by decide) hr)
    refine .bind (closeTag_blames hr) fun inside hinside => ?_
    have hclosed := hr.behind (closeTag_isSuffix hinside)
    exact .bind ((h names inside).mono hclosed.isSuffix) fun _ _ => .ok _
  · exact .ok _

omit h in
theorem otherwise_isSuffix {read : Read (Option Content)} (hread : otherwise content start names s = .ok read) :
    read.rest <:+ s := by
  rcases otherwise_yields hread with rfl | ⟨r, body, htakes, hbody, rfl⟩
  · exact List.suffix_refl _
  · exact (hy _ _ _ hbody).trans htakes.isSuffix

theorem conditional_blames (names : List String) (s : List Char) :
    Blames s (conditional source content names s) := by
  refine .bind (openTag_blames "if" s) fun r hr => ?_
  have hopened : Opened .conditional s r := opened_of_openTag? (by decide) (openTag_eq_ok_iff.mp hr)
  refine .bind (branch_blames h names hopened) fun first hfirst => ?_
  have hfirst := hopened.behind (branch_isSuffix hy hfirst)
  refine .bind (furtherBranches_blames hy h _ _ _ hfirst) fun more hmore => ?_
  have hmore := hfirst.behind (furtherBranches_isSuffix hy hmore)
  refine .bind (otherwise_blames h _ hmore) fun last hlast => ?_
  exact .bind (endClause_blames (by decide) (hmore.behind (otherwise_isSuffix hy hlast))) fun _ _ => .ok _

theorem statement_blames (names : List String) (s : List Char) : Blames s (statement source content names s) := by
  simp only [statement]
  split
  · exact .bind (block_blames source hy h names s) fun _ _ => .ok _
  · exact .bind (inclusion_blames source s) fun _ _ => .ok _
  · exact loop_blames source hy h names s
  · exact conditional_blames source hy h names s
  · exact .bind (assignment_blames source s) fun _ _ => .ok _
  · exact .since (behindMark_isSuffix s) fun _ _ => trivial

end Inside

/-! ## Content -/

theorem contentUpTo_isSuffix {source : List Char} {n : Nat} {text : List Char} {read : Read Content}
    (h : contentUpTo source n text names s = .ok read) : read.rest <:+ s :=
  (contentUpTo_places source n text _ _ _ h).isSuffix

theorem contentUpTo_blames (source : List Char) (n : Nat) :
    ∀ text names s, Blames s (contentUpTo source n text names s) := by
  induction n with
  | zero => exact fun _ _ _ => .ok _
  | succ n ih =>
    intro text names s
    have hy : ∀ names s read, contentUpTo source n [] names s = .ok read → read.rest <:+ s :=
      fun _ _ _ h => contentUpTo_isSuffix h
    cases s with
    | nil => exact .ok _
    | cons c cs =>
      rw [contentUpTo]
      split
      · rename_i hmark
        refine .bind (output_blames source hmark) fun node hnode => ?_
        obtain ⟨e, -, -, htakes, -⟩ := output_yields hmark hnode
        exact .bind ((ih _ _ _).mono htakes.isSuffix) fun _ _ => .ok _
      split
      · split
        · refine .bind (verbatim_blames _) fun found hfound => ?_
          exact (ih _ _ _).mono (verbatim_takes hfound).isSuffix
        · split
          · exact .ok _
          · refine .bind (statement_blames source hy (ih []) names _) fun node hnode => ?_
            have hrest := (statement_places (contentUpTo_places source n []) _ _ _ hnode).isSuffix
            exact .bind ((ih _ _ _).mono hrest) fun _ _ => .ok _
      · split
        · rename_i rest hcomment
          obtain ⟨body, -, hcs⟩ := comment?_eq_some_iff.mp hcomment
          rw [hcs]
          exact (ih _ _ _).mono ⟨'\x7b' :: '#' :: (body ++ ['#', '\x7d']), by simp⟩
        · exact (ih _ _ _).mono (List.suffix_cons c cs)

end TemplateEngine.Grammar
