/-
  TemplateEngine.Proofs.Document.Statements — written statements read back.

  One lemma for each rule of the grammar of statements: it reads the text of its statement
  and leaves what follows, if the rule for content reads the contents inside and leaves the
  tags that close them.
-/

import TemplateEngine.Proofs.Document.Tags

namespace TemplateEngine.Grammar

open Scan TemplateEngine.Except
open TemplateEngine.Expr (Place Readable readable_of_printable)

variable (extra : Place → Expr → Bool) (source : List Char)

/-! ## Statements without content -/

theorem output_written {e : Expr} (h : e.Printable) (position : Position) (rest : List Char) :
    output source ((Node.output position e).print extra rest) =
      .ok (.output (Position.before source ((Node.output position e).print extra rest)) e, rest) := by
  have hread := expression_written extra (readable_of_printable h) (follows_outputEnd 11 rest)
  have hbegins := (readable_of_printable h).begins_written extra .free (' ' :: '\x7d' :: '\x7d' :: rest)
  have hmark : mark? "\x7b\x7b" ((Node.output position e).print extra rest) =
      some (' ' :: (e.written extra .free ++ ' ' :: '\x7d' :: '\x7d' :: rest)) := rfl
  have hend : mark? "\x7d\x7d" (skipSpacing (' ' :: '\x7d' :: '\x7d' :: rest)) = some rest := by
    rw [skipSpacing_space rfl, skipSpacing_closer rfl]
    rfl
  rw [output, hmark, Option.getD_some, hbegins.skipSpacing_space, hread, Except.ok_bind]
  simp only [skipSpacing_space (c := ' ') rfl, skipSpacing_closer (c := '\x7d') rfl] at hend ⊢
  simp only [hend]
  rfl

theorem templateName_quoted (name : String) (start rest : List Char) :
    templateName start (quoted '"' name ++ rest) = .ok (name, rest) := by
  rw [templateName, string?_quoted (.inl rfl)]
  rfl

theorem unspaced_quoted (name : String) (rest : List Char) : Unspaced (quoted '"' name ++ rest) :=
  .cons _ rfl (by decide)

theorem inclusion_written (position : Position) (name : String) (rest : List Char) :
    inclusion source ((Node.inclusion position name).print extra rest) =
      .ok (.inclusion (Position.before source ((Node.inclusion position name).print extra rest)) name,
        rest) := by
  show inclusion source (tag "include" (quoted '"' name ++ ' ' :: tagEnd rest)) = _
  rw [inclusion, openTag_tag (by decide) (unspaced_quoted name _), Except.ok_bind, templateName_quoted,
    Except.ok_bind]
  simp only [closeTag_space, Except.ok_bind]
  rfl

theorem assignment_written {name : String} {e : Expr} (hname : isName name = true) (h : e.Printable)
    (position : Position) (rest : List Char) :
    assignment source ((Node.assignment position name e).print extra rest) =
      .ok (.assignment (Position.before source ((Node.assignment position name e).print extra rest)) name e,
        rest) := by
  have hread := expression_written extra (readable_of_printable h) (follows_tagEnd 11 rest)
  have hbegins := (readable_of_printable h).begins_written extra .free (' ' :: tagEnd rest)
  have hopen := Expr.begins_name hname
    (' ' :: '=' :: ' ' :: (e.written extra .free ++ ' ' :: tagEnd rest))
  have hequals (start : List Char) : requiredSymbol "=" start
      (skipSpacing (' ' :: '=' :: ' ' :: (e.written extra .free ++ ' ' :: tagEnd rest))) =
        .ok (e.written extra .free ++ ' ' :: tagEnd rest) := by
    have hmark : symbol? "=" ('=' :: ' ' :: (e.written extra .free ++ ' ' :: tagEnd rest)) = some _ :=
      hbegins.symbol?_space "="
    rw [skipSpacing_space rfl, skipSpacing_of_unspaced (.cons _ rfl (by decide)), requiredSymbol, hmark]
  show assignment source (tag "set" (name.toList ++ ' ' :: '=' :: ' ' ::
    (e.written extra .free ++ ' ' :: tagEnd rest))) = _
  rw [assignment, openTag_tag (by decide) hopen.unspaced, Except.ok_bind, identifier?_cons hname rfl]
  simp only [expected, Except.ok_bind, hequals, hread, skipSpacing_space_tagEnd, closeTag_tagEnd]
  rfl

/-! ## Blocks and branches -/

theorem block_written {content : Statement Content} {name : String} (hname : isName name = true)
    {names names' : List String} (hnew : name ∉ names) {body rest : List Char} {found : Content}
    (hbody : content (name :: names) body = .ok ⟨found, names', tag "endblock" (tagEnd rest)⟩) :
    block source content names (tag "block" (name.toList ++ ' ' :: tagEnd body)) =
      .ok ⟨⟨Position.before source (tag "block" (name.toList ++ ' ' :: tagEnd body)), name, found⟩,
        names', rest⟩ := by
  have hopen := Expr.begins_name hname (' ' :: tagEnd body)
  have hfresh : names.contains name = false := by simpa using hnew
  rw [block, openTag_tag (by decide) hopen.unspaced, Except.ok_bind, identifier?_cons hname rfl]
  simp only [expected, Except.ok_bind, closeTag_space, hfresh, hbody,
    endClause_tag (by decide : isKeyword "endblock" = true)]
  rfl

theorem branch_written {content : Statement Content} {condition : Expr} (h : condition.Printable)
    (start : List Char) {names names' : List String} {body rest : List Char} {found : Content}
    (hbody : content names body = .ok ⟨found, names', rest⟩) :
    branch content start names (condition.written extra .free ++ ' ' :: tagEnd body) =
      .ok ⟨(condition, found), names', rest⟩ := by
  have hread := expression_written extra (readable_of_printable h) (follows_tagEnd 11 body)
  rw [branch, hread]
  simp only [Except.ok_bind, skipSpacing_space_tagEnd, closeTag_tagEnd, hbody]
  rfl

/-- The first branch, those behind it and the rest of a conditional. -/
theorem conditional_written {content : Statement Content} {condition : Expr} (h : condition.Printable)
    {names₀ names₁ names₂ names₃ : List String} {body behind last rest : List Char} {first : Content}
    {more : List (Expr × Content)} {found : Option Content}
    (hfirst : content names₀ body = .ok ⟨first, names₁, behind⟩)
    (hmore : ∀ start, furtherBranches content start behind.length names₁ behind = .ok ⟨more, names₂, last⟩)
    (hlast : ∀ start, otherwise content start names₂ last = .ok ⟨found, names₃, tag "endif" (tagEnd rest)⟩) :
    let s := tag "if" (condition.written extra .free ++ ' ' :: tagEnd body)
    conditional source content names₀ s =
      .ok ⟨.conditional (Position.before source s) ((condition, first) :: more) found, names₃, rest⟩ := by
  intro s
  have hopen := (readable_of_printable h).begins_written extra .free (' ' :: tagEnd body)
  have hbranch := branch_written extra h s hfirst
  rw [conditional, openTag_tag (by decide) hopen.unspaced]
  simp only [Except.ok_bind, hbranch, hmore, hlast, endClause_tag (by decide : isKeyword "endif" = true)]
  rfl

/-! ## Loops -/

theorem loopVariable_name {name : String} (h : isName name = true) {c : Char}
    (hc : isLetterOrDigit c = false) (start rest : List Char) :
    loopVariable start (name.toList ++ c :: rest) = .ok (name, skipSpacing (c :: rest)) := by
  rw [loopVariable, identifier?_cons h hc]
  rfl

theorem loopTarget_written {target : Target} (h : ∀ name ∈ target.names, isName name = true)
    (start rest : List Char) :
    loopTarget start (target.print (' ' :: ("in".toList ++ ' ' :: rest))) =
      .ok (target, "in".toList ++ ' ' :: rest) := by
  have hin : skipSpacing (' ' :: ("in".toList ++ ' ' :: rest)) = "in".toList ++ ' ' :: rest := by
    rw [skipSpacing_space rfl, skipSpacing_of_unspaced (unspaced_keyword (by decide) _)]
  have hlast {name : String} (hname : isName name = true) :
      loopVariable start (name.toList ++ ' ' :: ("in".toList ++ ' ' :: rest)) =
        .ok (name, "in".toList ++ ' ' :: rest) := by
    rw [loopVariable_name hname rfl, hin]
  cases target with
  | value name =>
    have hname := h name (List.mem_cons_self ..)
    have hcomma : symbol? "," ("in".toList ++ ' ' :: rest) = none := rfl
    rw [Target.print, loopTarget, hlast hname, Except.ok_bind]
    simp only [hcomma]
    rfl
  | pair keyName valueName =>
    have hkey := h keyName (List.mem_cons_self ..)
    have hvalue := h valueName (List.mem_cons_of_mem _ (List.mem_cons_self ..))
    have hcomma : symbol? "," (',' :: ' ' :: (valueName.toList ++ ' ' :: ("in".toList ++ ' ' :: rest))) =
        some _ := (Expr.begins_name hvalue _).symbol?_space ","
    rw [Target.print, loopTarget, loopVariable_name hkey rfl, skipSpacing_closer rfl, Except.ok_bind]
    simp only [hcomma, hlast hvalue, Except.ok_bind]
    rfl

/-- A stage is read as a function wherever one may stand. -/
theorem functionReference_stage {f : Expr} (h : f.Printable) (hstage : f.isStage = true) {rest : List Char}
    (hrest : Stops joins rest) :
    functionReference expression (f.bare extra true ++ rest) = .ok (some f, skipSpacing rest) := by
  cases h with
  | var hname => exact Expr.functionReference_var hname hrest
  | call hname hargs =>
    rw [Expr.bare_call, List.append_assoc, List.cons_append, List.append_assoc]
    exact Expr.functionReference_call extra hname (fun e he => readable_of_printable (hargs e he))
      (fun e he _ hmore => expression_written extra (readable_of_printable (hargs e he)) hmore) rest
  | _ => cases hstage

theorem length_le_skipped (filters : List Expr) (rest : List Char) :
    filters.length ≤ (skipSpacing (printFilters extra filters rest)).length := by
  cases filters with
  | nil => exact Nat.zero_le _
  | cons f filters =>
    have := length_le_printFilters extra filters rest
    rw [printFilters, skipSpacing_filter]
    simp only [List.length_append, List.length_cons]
    omega

theorem loopFilters_written {filters : List Expr}
    (h : ∀ f ∈ filters, f.Printable ∧ f.isStage = true) (start rest : List Char) {n : Nat}
    (hn : filters.length ≤ n) :
    loopFilters start n (skipSpacing (printFilters extra filters rest)) = .ok (filters, tagEnd rest) := by
  have hlast : skipSpacing (printFilters extra [] rest) = tagEnd rest := skipSpacing_space_tagEnd rest
  have hend : furtherFilter start (skipSpacing (printFilters extra [] rest)) =
      .ok (none, skipSpacing (printFilters extra [] rest)) := by
    rw [hlast]
    exact furtherFilter_eq_none_iff.mpr rfl
  rw [loopFilters_eq_rounds, ← hlast]
  refine rounds_written (fun filters => skipSpacing (printFilters extra filters rest)) hend
    (fun f more hmore => ?_) hn
  obtain ⟨hf, hstage⟩ := h f (hmore.mem (List.mem_cons_self ..))
  have hstop : Stops joins (printFilters extra more rest) := (follows_printFilters extra 0 more rest).word
  have hread := functionReference_stage extra hf hstage hstop
  have hbegins := (readable_of_printable hf).begins extra true (printFilters extra more rest)
  have hword : keyword? "filter"
      ("filter".toList ++ ' ' :: (f.bare extra true ++ printFilters extra more rest)) =
        some (f.bare extra true ++ printFilters extra more rest) := by
    rw [keyword?_append (by decide) (Stops.cons rfl), hbegins.skipSpacing_space]
  rw [printFilters, skipSpacing_filter]
  exact furtherFilter_eq_some_iff.mpr ⟨_, Option.bind_eq_some_iff.mpr ⟨_, symbol?_filter _, hword⟩, hread⟩

theorem loop_written {content : Statement Content} {target : Target} {collection : Expr}
    {filters : List Expr} (htarget : ∀ name ∈ target.names, isName name = true) (h : collection.Printable)
    (hfilters : ∀ f ∈ filters, f.Printable ∧ f.isStage = true) {names names' : List String}
    {body rest : List Char} {found : Content}
    (hbody : content names body = .ok ⟨found, names', tag "endfor" (tagEnd rest)⟩) :
    let s := tag "for" (target.print (' ' :: ("in".toList ++ ' ' :: (collection.written extra .free ++
      printFilters extra filters body))))
    loop source content names s =
      .ok ⟨.loop (Position.before source s) target collection filters found, names', rest⟩ := by
  intro s
  have hopen : Unspaced (target.print (' ' :: ("in".toList ++ ' ' :: (collection.written extra .free ++
      printFilters extra filters body)))) := by
    cases target with
    | value name => exact (Expr.begins_name (htarget name (List.mem_cons_self ..)) _).unspaced
    | pair keyName valueName => exact (Expr.begins_name (htarget keyName (List.mem_cons_self ..)) _).unspaced
  have hread := expression_written extra (readable_of_printable h)
    (follows_printFilters extra 11 filters body)
  have hin : keyword? "in" ("in".toList ++ ' ' :: (collection.written extra .free ++
      printFilters extra filters body)) =
        some (collection.written extra .free ++ printFilters extra filters body) := by
    have hbegins := (readable_of_printable h).begins_written extra .free (printFilters extra filters body)
    rw [keyword?_append (by decide) (Stops.cons rfl), hbegins.skipSpacing_space]
  have hmany := length_le_skipped extra filters body
  rw [loop, openTag_tag (by decide) hopen, Except.ok_bind, loopTarget_written htarget, Except.ok_bind]
  simp only [hin, pure_bind, hread, Except.ok_bind, loopFilters_written extra hfilters _ body hmany,
    closeTag_tagEnd, hbody, endClause_tag (by decide : isKeyword "endfor" = true)]
  rfl

end TemplateEngine.Grammar
