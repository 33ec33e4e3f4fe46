/-
  TemplateEngine.Proofs.Grammar.StatementYield — what the rules of statements read.

  A statement is a piece of the text that starts with the tag of its directive (`Opens`).
  The content inside it is read from what is left behind its tag, and what the rule for
  content leaves is where the end clause is read. One lemma for each statement says so,
  together with what the names and expressions in its tags are.
-/

import TemplateEngine.Proofs.Document.Print
import TemplateEngine.Proofs.Grammar.StatementInversion
import TemplateEngine.Proofs.Grammar.Yield

namespace TemplateEngine.Grammar

open Scan
open TemplateEngine.Expr (WellFormed)

/-- The tag of a word opens here: its mark, spacing, and the word, which ends there. -/
def Opens (word : String) (s : List Char) : Prop :=
  ∃ w t, Spacing w ∧ Stops isLetterOrDigit t ∧ s = '\x7b' :: '%' :: (w ++ (word.toList ++ t))

variable {source s rest start : List Char} {names : List String}

/-! ## Tags -/

theorem openTag?_opens {word : String} (hword : isKeyword word = true) (h : openTag? word s = some rest) :
    Opens word s ∧ Takes s rest ∧ Unspaced rest := by
  obtain ⟨r, hmark, hread⟩ := openTag?_eq_some_iff.mp h
  obtain rfl : s = '\x7b' :: '%' :: r := mark?_eq_some_iff.mp hmark
  obtain ⟨-, w, hw, hr⟩ := spacing_skipSpacing r
  obtain ⟨htakes, hrest⟩ := keyword?_takes hword hread
  obtain ⟨t, ht, hstop, -⟩ := (keyword?_eq_some_iff hword).mp hread
  have hopen : Takes ('\x7b' :: '%' :: r) (skipSpacing r) := Takes.skip ⟨['\x7b', '%'], .brace (by decide) _, rfl⟩
  exact ⟨⟨w, t, hw, hstop, by rw [← ht, ← hr]⟩, hopen.trans htakes, hrest⟩

theorem closeTag_takes {directive : Directive} (h : closeTag directive start s = .ok rest) :
    Takes (skipSpacing s) rest := by
  have hs : skipSpacing s = '%' :: '\x7d' :: rest := mark?_eq_some_iff.mp (closeTag_eq_ok_iff.mp h)
  exact ⟨['%', '\x7d'], .cons rfl (by decide) _, hs⟩

theorem closeTag_isSuffix {directive : Directive} (h : closeTag directive start s = .ok rest) : rest <:+ s :=
  (closeTag_takes h).isSuffix.trans (skipSpacing_isSuffix s)

theorem endClause_takes {word : String} (hword : isKeyword word = true) {directive : Directive}
    (h : endClause word directive start s = .ok rest) : Takes s rest := by
  obtain ⟨-, r, hopen, hclose⟩ := endClause_eq_ok_iff.mp h
  obtain ⟨-, htakes, -⟩ := openTag?_opens hword hopen
  have hname : (if directive = .block then ((identifier? r).map (·.2)).getD r else r) <:+ r := by
    split
    · cases hread : identifier? r with
      | none => exact List.suffix_refl r
      | some found =>
        obtain ⟨name, r'⟩ := found
        exact (identifier?_takes hread).2.isSuffix
    · exact List.suffix_refl r
  exact htakes.suffix ((closeTag_isSuffix hclose).trans hname)

/-! ## Statements without content -/

theorem output_yields {node : Node} (hmark : (mark? "\x7b\x7b" s).isSome)
    (h : output source s = .ok (node, rest)) :
    ∃ e, WellFormed e ∧ (∃ t, s = '\x7b' :: '\x7b' :: t) ∧ Takes s rest ∧
      node = .output (Position.before source s) e := by
  obtain ⟨t, ht⟩ := Option.isSome_iff_exists.mp hmark
  obtain ⟨e, r, he, hclose, rfl⟩ := output_eq_ok_iff.mp h
  rw [ht, Option.getD_some] at he
  obtain rfl : s = '\x7b' :: '\x7b' :: t := mark?_eq_some_iff.mp ht
  obtain ⟨hgood, htakes, -⟩ := expression_yields _ _ _ he
  have hopen : Takes ('\x7b' :: '\x7b' :: t) (skipSpacing t) :=
    Takes.skip ⟨['\x7b', '\x7b'], .brace (by decide) _, rfl⟩
  have hrest : rest <:+ skipSpacing r := ⟨['\x7d', '\x7d'], (mark?_eq_some_iff.mp hclose).symm⟩
  exact ⟨e, hgood, ⟨t, rfl⟩, (hopen.trans htakes).skip.suffix hrest, rfl⟩

theorem inclusion_yields {node : Node} (h : inclusion source s = .ok (node, rest)) :
    ∃ name, Opens "include" s ∧ Takes s rest ∧ node = .inclusion (Position.before source s) name := by
  obtain ⟨r, name, r', hopen, hname, hclose, rfl⟩ := inclusion_eq_ok_iff.mp h
  obtain ⟨hopens, htakes, -⟩ := openTag?_opens (by decide) hopen
  obtain ⟨piece, -, -, hr, -⟩ := string?_takes hname
  have hrest : rest <:+ r := (closeTag_isSuffix hclose).trans ⟨piece, hr.symm⟩
  exact ⟨name, hopens, htakes.suffix hrest, rfl⟩

theorem assignment_yields {node : Node} (h : assignment source s = .ok (node, rest)) :
    ∃ name e, Opens "set" s ∧ isName name = true ∧ WellFormed e ∧ Takes s rest ∧
      node = .assignment (Position.before source s) name e := by
  obtain ⟨r₁, name, r₂, r₃, e, r₄, hopen, hname, hequals, he, hclose, rfl⟩ := assignment_eq_ok_iff.mp h
  obtain ⟨hopens, htakes, -⟩ := openTag?_opens (by decide) hopen
  obtain ⟨hname, htakes₂⟩ := identifier?_takes hname
  obtain ⟨htakes₃, -⟩ := symbol?_takes (by decide) hequals
  obtain ⟨hgood, htakes₄, -⟩ := expression_yields _ _ _ he
  exact ⟨name, e, hopens, hname, hgood, (((htakes.trans htakes₂).skip.trans htakes₃).trans htakes₄).suffix
    (closeTag_isSuffix hclose), rfl⟩

theorem verbatimBody?_eq_append {body : List Char} (h : verbatimBody? s = some (body, rest)) :
    s = body ++ rest := by
  induction s generalizing body with
  | nil => cases h
  | cons c cs ih =>
    rw [verbatimBody?] at h
    split at h
    · cases h; rfl
    · obtain ⟨⟨body', rest'⟩, hbody, h⟩ := Option.map_eq_some_iff.mp h
      obtain ⟨rfl, rfl⟩ := Prod.mk.inj h
      rw [ih hbody]
      rfl

theorem verbatim_takes {body : List Char} (h : verbatim s = .ok (body, rest)) : Takes s rest := by
  obtain ⟨r₁, r₂, r₃, r₄, hopen, hclose, hbody, hend, hclose'⟩ := verbatim_eq_ok_iff.mp h
  obtain ⟨-, htakes, -⟩ := openTag?_opens (by decide) hopen
  have hbody : r₃ <:+ r₂ := ⟨body, (verbatimBody?_eq_append hbody).symm⟩
  obtain ⟨-, htakes', -⟩ := openTag?_opens (by decide) hend
  exact (htakes.suffix (hbody.trans (closeTag_isSuffix hclose))).trans
    (htakes'.suffix (closeTag_isSuffix hclose'))

/-! ## Statements with content -/

section

variable {content : Statement Content}

theorem block_yields {read : Read Override} (h : block source content names s = .ok read) :
    ∃ name r body rest, Opens "block" s ∧ isName name = true ∧ name ∉ names ∧ Takes s r ∧
      content (name :: names) r = .ok body ∧ Takes body.rest rest ∧
      read = ⟨⟨Position.before source s, name, body.found⟩, body.names, rest⟩ := by
  obtain ⟨r, name, r', r'', body, rest, hopen, hname, hclose, hnew, hbody, hend, rfl⟩ := block_eq_ok_iff.mp h
  obtain ⟨hopens, htakes, -⟩ := openTag?_opens (by decide) hopen
  obtain ⟨hname, htakes'⟩ := identifier?_takes hname
  exact ⟨name, r'', body, rest, hopens, hname, hnew,
    (htakes.trans htakes').suffix (closeTag_isSuffix hclose), hbody, endClause_takes (by decide) hend, rfl⟩

theorem loopVariable_yields {name : String} (h : loopVariable start s = .ok (name, rest)) :
    isName name = true ∧ Takes s rest ∧ Unspaced rest := by
  obtain ⟨r, hread, rfl⟩ := loopVariable_eq_ok_iff.mp h
  obtain ⟨hname, htakes⟩ := identifier?_takes hread
  exact ⟨hname, htakes.skip, unspaced_skipSpacing r⟩

theorem loopTarget_yields {target : Target} (h : loopTarget start s = .ok (target, rest)) :
    (∀ name ∈ target.names, isName name = true) ∧ Takes s rest ∧ Unspaced rest := by
  obtain ⟨first, r, hfirst, ⟨-, rfl, rfl⟩ | ⟨r', second, hcomma, hsecond, rfl⟩⟩ := loopTarget_eq_ok_iff.mp h
  · obtain ⟨hname, htaken⟩ := loopVariable_yields hfirst
    exact ⟨fun name hmem => by rw [List.mem_singleton.mp hmem]; exact hname, htaken⟩
  · obtain ⟨hname, htakes, -⟩ := loopVariable_yields hfirst
    obtain ⟨htakes', -⟩ := symbol?_takes (by decide) hcomma
    obtain ⟨hname', htakes'', hrest⟩ := loopVariable_yields hsecond
    refine ⟨fun name hmem => ?_, (htakes.trans htakes').trans htakes'', hrest⟩
    rcases List.mem_cons.mp hmem with rfl | hmem
    · exact hname
    · rw [List.mem_singleton.mp hmem]
      exact hname'

theorem filterMark_takes (h : (symbol? "|" s).bind (keyword? "filter") = some rest) :
    Takes s rest ∧ Unspaced rest := by
  obtain ⟨r, hmark, hword⟩ := Option.bind_eq_some_iff.mp h
  obtain ⟨htakes, -⟩ := symbol?_takes (by decide) hmark
  obtain ⟨htakes', hrest⟩ := keyword?_takes (by decide) hword
  exact ⟨htakes.trans htakes', hrest⟩

theorem furtherFilter_yields : Yields (fun f => WellFormed f ∧ f.isStage = true) (furtherFilter start) := by
  intro s filter rest h
  obtain ⟨r, hmark, hfilter⟩ := furtherFilter_eq_some_iff.mp h
  obtain ⟨hgood, htakes, hrest⟩ := functionReference_yields expression_yields _ _ _ hfilter
  exact ⟨hgood, (filterMark_takes hmark).1.trans htakes, hrest⟩

theorem loopFilters_yields {n : Nat} {filters : List Expr} (h : loopFilters start n s = .ok (filters, rest)) :
    Tail (fun f => WellFormed f ∧ f.isStage = true) s filters rest :=
  rounds_yields furtherFilter_yields (loopFilters_eq_rounds .. ▸ h)

theorem loop_yields {read : Read Node} (h : loop source content names s = .ok read) :
    ∃ target collection filters r body rest, Opens "for" s ∧ (∀ name ∈ target.names, isName name = true) ∧
      WellFormed collection ∧ (∀ f ∈ filters, WellFormed f ∧ f.isStage = true) ∧ Takes s r ∧
      content names r = .ok body ∧ Takes body.rest rest ∧
      read = ⟨.loop (Position.before source s) target collection filters body.found, body.names, rest⟩ := by
  obtain ⟨r₁, target, r₂, r₃, collection, r₄, filters, r₅, r₆, body, rest, hopen, htarget, hin, hcollection,
    hfilters, hclose, hbody, hend, rfl⟩ := loop_eq_ok_iff.mp h
  obtain ⟨hopens, htakes₁, -⟩ := openTag?_opens (by decide) hopen
  obtain ⟨hnames, htakes₂, -⟩ := loopTarget_yields htarget
  obtain ⟨htakes₃, -⟩ := keyword?_takes (by decide) hin
  obtain ⟨hgood, htakes₄, -⟩ := expression_yields _ _ _ hcollection
  have htail := loopFilters_yields hfilters
  have hhead : Takes s r₆ := (((htakes₁.trans htakes₂).trans htakes₃).trans htakes₄).suffix
    ((closeTag_isSuffix hclose).trans htail.isSuffix)
  exact ⟨target, collection, filters, r₆, body, rest, hopens, hnames, hgood, htail.good, hhead, hbody,
    endClause_takes (by decide) hend, rfl⟩

theorem branch_yields {read : Read (Expr × Content)} (h : branch content start names s = .ok read) :
    ∃ condition r body, WellFormed condition ∧ Takes s r ∧ content names r = .ok body ∧
      read = ⟨(condition, body.found), body.names, body.rest⟩ := by
  obtain ⟨condition, r, r', body, hcondition, hclose, hbody, rfl⟩ := branch_eq_ok_iff.mp h
  obtain ⟨hgood, htakes, -⟩ := expression_yields _ _ _ hcondition
  exact ⟨condition, r', body, hgood, htakes.suffix (closeTag_isSuffix hclose), hbody, rfl⟩

theorem furtherBranches_yields {n : Nat} {read : Read (List (Expr × Content))}
    (h : furtherBranches content start (n + 1) names s = .ok read) :
    read = ⟨[], names, s⟩ ∨ ∃ r first more, Takes s r ∧ branch content start names r = .ok first ∧
      furtherBranches content start n first.names first.rest = .ok more ∧
      read = ⟨first.found :: more.found, more.names, more.rest⟩ := by
  rcases furtherBranches_succ_iff.mp h with ⟨-, rfl⟩ | ⟨-, r, first, more, hopen, hfirst, hmore, rfl⟩
  · exact .inl rfl
  · exact .inr ⟨r, first, more, (openTag?_opens (by decide) hopen).2.1, hfirst, hmore, rfl⟩

theorem otherwise_yields {read : Read (Option Content)} (h : otherwise content start names s = .ok read) :
    read = ⟨none, names, s⟩ ∨ ∃ r body, Takes s r ∧ content names r = .ok body ∧
      read = ⟨some body.found, body.names, body.rest⟩ := by
  rcases otherwise_eq_ok_iff.mp h with ⟨-, rfl⟩ | ⟨-, r, r', body, hopen, hclose, hbody, rfl⟩
  · exact .inl rfl
  · exact .inr ⟨r', body, (openTag?_opens (by decide) hopen).2.1.suffix (closeTag_isSuffix hclose), hbody, rfl⟩

theorem conditional_yields {read : Read Node} (h : conditional source content names s = .ok read) :
    ∃ r first more last rest, Opens "if" s ∧ Takes s r ∧ branch content s names r = .ok first ∧
      furtherBranches content s first.rest.length first.names first.rest = .ok more ∧
      otherwise content s more.names more.rest = .ok last ∧ Takes last.rest rest ∧
      read = ⟨.conditional (Position.before source s) (first.found :: more.found) last.found, last.names,
        rest⟩ := by
  obtain ⟨r, first, more, last, rest, hopen, hfirst, hmore, hlast, hend, rfl⟩ := conditional_eq_ok_iff.mp h
  obtain ⟨hopens, htakes, -⟩ := openTag?_opens (by decide) hopen
  exact ⟨r, first, more, last, rest, hopens, htakes, hfirst, hmore, hlast, endClause_takes (by decide) hend, rfl⟩

end

end TemplateEngine.Grammar
