/-
  TemplateEngine.Proofs.Grammar.StatementInversion — the rules of statements, content and
  documents, read from their results.

  One equivalence for each rule, as for the rules of expressions. The rule for content is
  read one step at a time (`Step`): what it does depends on what opens where it stands.
-/

import TemplateEngine.Grammar.Document
import TemplateEngine.Proofs.Grammar.Loops

namespace TemplateEngine.Grammar

open Scan TemplateEngine.Except

variable {source s rest start : List Char} {names : List String}

theorem openTag_eq_ok_iff {word : String} : openTag word s = .ok rest ↔ openTag? word s = some rest := by
  unfold openTag
  cases openTag? word s <;> simp

theorem openTag?_eq_some_iff {word : String} :
    openTag? word s = some rest ↔ ∃ r, mark? "\x7b%" s = some r ∧ keyword? word (skipSpacing r) = some rest := by
  simp [openTag?, Option.bind_eq_some_iff]

theorem closeTag_eq_ok_iff {directive : Directive} :
    closeTag directive start s = .ok rest ↔ mark? "%\x7d" (skipSpacing s) = some rest := by
  simp only [closeTag]
  cases mark? "%\x7d" (skipSpacing s) <;> simp

theorem endClause_eq_ok_iff {word : String} {directive : Directive} :
    endClause word directive start s = .ok rest ↔
      tagWord? s = some word ∧ ∃ r, openTag? word s = some r ∧
        closeTag directive start
          (if directive = .block then ((identifier? r).map (·.2)).getD r else r) = .ok rest := by
  unfold endClause
  by_cases hword : tagWord? s = some word <;>
    simp [hword, bind_eq_ok, throw_ne_ok, openTag_eq_ok_iff]

theorem expected_eq_ok_iff {α : Type} {what : String} {found : Option (α × List Char)} {x : α} :
    expected what start s found = .ok (x, rest) ↔ found = some (x, rest) := by
  unfold expected
  cases found <;> simp

theorem templateName_eq_ok_iff {name : String} :
    templateName start s = .ok (name, rest) ↔ string? s = .ok (some name, rest) := by
  simp only [templateName, bind_eq_ok, Prod.exists, Option.exists, pure_eq_ok, throw_ne_ok, Prod.mk.injEq]
  grind

theorem output_eq_ok_iff {node : Node} :
    output source s = .ok (node, rest) ↔
      ∃ e r, expression (skipSpacing ((mark? "\x7b\x7b" s).getD s)) = .ok (some e, r) ∧
        mark? "\x7d\x7d" (skipSpacing r) = some rest ∧ Node.output (Position.before source s) e = node := by
  simp [output, bind_eq_ok, Prod.exists, required_eq_ok_iff]
  refine exists_congr fun e => exists_congr fun r => and_congr_right fun _ => ?_
  cases mark? "\x7d\x7d" (skipSpacing r) <;> simp [pure_eq_ok, throw_ne_ok, and_comm]

theorem inclusion_eq_ok_iff {node : Node} :
    inclusion source s = .ok (node, rest) ↔
      ∃ r name r', openTag? "include" s = some r ∧ string? r = .ok (some name, r') ∧
        closeTag .inclusion s r' = .ok rest ∧ Node.inclusion (Position.before source s) name = node := by
  simp [inclusion, bind_eq_ok, Prod.exists, openTag_eq_ok_iff, templateName_eq_ok_iff, map_eq_ok]
  

theorem assignment_eq_ok_iff {node : Node} :
    assignment source s = .ok (node, rest) ↔
      ∃ r name r' r'' e r₃, openTag? "set" s = some r ∧ identifier? r = some (name, r') ∧
        symbol? "=" (skipSpacing r') = some r'' ∧ expression r'' = .ok (some e, r₃) ∧
        closeTag .assignment s r₃ = .ok rest ∧ Node.assignment (Position.before source s) name e = node := by
  simp [assignment, bind_eq_ok, Prod.exists, openTag_eq_ok_iff, expected_eq_ok_iff,
    requiredSymbol_eq_ok_iff, required_eq_ok_iff, map_eq_ok]

theorem verbatim_eq_ok_iff {body : List Char} :
    verbatim s = .ok (body, rest) ↔
      ∃ r r' r'' r₃, openTag? "verbatim" s = some r ∧ closeTag .verbatim s r = .ok r' ∧
        verbatimBody? r' = some (body, r'') ∧ openTag? "endverbatim" r'' = some r₃ ∧
          closeTag .verbatim s r₃ = .ok rest := by
  simp [verbatim, bind_eq_ok, openTag_eq_ok_iff]
  refine exists_congr fun r => and_congr_right fun _ => exists_congr fun r' => and_congr_right fun _ => ?_
  cases verbatimBody? r' with
  | none => simp [throw_ne_ok]
  | some found =>
    obtain ⟨inside, r''⟩ := found
    simp [bind_eq_ok, openTag_eq_ok_iff, map_eq_ok]
    grind

section

variable {content : Statement Content}

theorem block_eq_ok_iff {read : Read Override} :
    block source content names s = .ok read ↔
      ∃ r name r' r'' body rest, openTag? "block" s = some r ∧ identifier? r = some (name, r') ∧
        closeTag .block s r' = .ok r'' ∧ name ∉ names ∧ content (name :: names) r'' = .ok body ∧
        endClause "endblock" .block s body.rest = .ok rest ∧
        ⟨⟨Position.before source s, name, body.found⟩, body.names, rest⟩ = read := by
  simp [block, bind_eq_ok, Prod.exists, openTag_eq_ok_iff, expected_eq_ok_iff]
  refine exists_congr fun r => and_congr_right fun _ => exists_congr fun name => exists_congr fun r' =>
    and_congr_right fun _ => exists_congr fun r'' => and_congr_right fun _ => ?_
  by_cases hname : name ∈ names <;> simp [hname, bind_eq_ok, map_eq_ok, throw_ne_ok]

theorem loopVariable_eq_ok_iff {name : String} :
    loopVariable start s = .ok (name, rest) ↔ ∃ r, identifier? s = some (name, r) ∧ skipSpacing r = rest := by
  simp [loopVariable, Prod.exists, expected_eq_ok_iff, map_eq_ok]

theorem loopTarget_eq_ok_iff {target : Target} :
    loopTarget start s = .ok (target, rest) ↔
      ∃ first r, loopVariable start s = .ok (first, r) ∧
        ((symbol? "," r = none ∧ Target.value first = target ∧ r = rest) ∨
        ∃ r' second, symbol? "," r = some r' ∧ loopVariable start r' = .ok (second, rest) ∧
          Target.pair first second = target) := by
  simp [loopTarget, bind_eq_ok, Prod.exists]
  refine exists_congr fun first => exists_congr fun r => and_congr_right fun _ => ?_
  cases symbol? "," r <;> simp [Prod.exists, pure_eq_ok, map_eq_ok]

/-- A filter of a loop behind its mark. -/
def furtherFilter (start : List Char) : Rule Expr := fun s =>
  match (symbol? "|" s).bind (keyword? "filter") with
  | none => .ok (none, s)
  | some rest => do
    match ← functionReference expression rest with
    | (none, rest) => throw (.since (.expected "filter function") start rest)
    | (some filter, rest) => return (some filter, rest)

theorem furtherFilter_eq_some_iff {filter : Expr} :
    furtherFilter start s = .ok (some filter, rest) ↔
      ∃ r, (symbol? "|" s).bind (keyword? "filter") = some r ∧
        functionReference expression r = .ok (some filter, rest) := by
  unfold furtherFilter
  cases (symbol? "|" s).bind (keyword? "filter") <;>
    simp [bind_eq_ok, Prod.exists, Option.exists, pure_eq_ok, throw_ne_ok]

theorem furtherFilter_eq_none_iff :
    furtherFilter start s = .ok (none, s) ↔ (symbol? "|" s).bind (keyword? "filter") = none := by
  unfold furtherFilter
  cases (symbol? "|" s).bind (keyword? "filter") <;>
    simp [bind_eq_ok, Prod.exists, Option.exists, pure_eq_ok, throw_ne_ok]

theorem loopFilters_eq_rounds (start : List Char) (n : Nat) (s : List Char) :
    loopFilters start n s = rounds (furtherFilter start) n s := by
  induction n generalizing s with
  | zero => rfl
  | succ n ih =>
    simp only [loopFilters, rounds, furtherFilter]
    cases (symbol? "|" s).bind (keyword? "filter") with
    | none => rfl
    | some rest =>
      dsimp only
      cases functionReference expression rest with
      | error f => rfl
      | ok found =>
        obtain ⟨_ | filter, rest⟩ := found
        · rfl
        · simp only [ok_bind, pure, Except.pure, ih]

theorem loop_eq_ok_iff {read : Read Node} :
    loop source content names s = .ok read ↔
      ∃ r₁ target r₂ r₃ collection r₄ filters r₅ r₆ body rest, openTag? "for" s = some r₁ ∧
        loopTarget s r₁ = .ok (target, r₂) ∧ keyword? "in" r₂ = some r₃ ∧
        expression r₃ = .ok (some collection, r₄) ∧ loopFilters s r₄.length r₄ = .ok (filters, r₅) ∧
        closeTag .loop s r₅ = .ok r₆ ∧ content names r₆ = .ok body ∧
        endClause "endfor" .loop s body.rest = .ok rest ∧
        ⟨.loop (Position.before source s) target collection filters body.found, body.names, rest⟩ = read := by
  simp [loop, bind_eq_ok, Prod.exists, openTag_eq_ok_iff]
  refine exists_congr fun r₁ => and_congr_right fun _ => exists_congr fun target => exists_congr fun r₂ =>
    and_congr_right fun _ => ?_
  cases keyword? "in" r₂ <;>
    simp [bind_eq_ok, Prod.exists, map_eq_ok, throw_ne_ok, required_eq_ok_iff]

theorem branch_eq_ok_iff {read : Read (Expr × Content)} :
    branch content start names s = .ok read ↔
      ∃ condition r r' body, expression s = .ok (some condition, r) ∧
        closeTag .conditional start r = .ok r' ∧ content names r' = .ok body ∧
        ⟨(condition, body.found), body.names, body.rest⟩ = read := by
  simp [branch, bind_eq_ok, Prod.exists, map_eq_ok, required_eq_ok_iff]

theorem furtherBranches_succ_iff {n : Nat} {read : Read (List (Expr × Content))} :
    furtherBranches content start (n + 1) names s = .ok read ↔
      (tagWord? s ≠ some "elseif" ∧ ⟨[], names, s⟩ = read) ∨
      (tagWord? s = some "elseif" ∧ ∃ r first more, openTag? "elseif" s = some r ∧
        branch content start names r = .ok first ∧
        furtherBranches content start n first.names first.rest = .ok more ∧
        ⟨first.found :: more.found, more.names, more.rest⟩ = read) := by
  rw [furtherBranches]
  by_cases hword : tagWord? s = some "elseif" <;>
    simp [hword, bind_eq_ok, map_eq_ok, openTag_eq_ok_iff]

theorem otherwise_eq_ok_iff {read : Read (Option Content)} :
    otherwise content start names s = .ok read ↔
      (tagWord? s ≠ some "else" ∧ ⟨none, names, s⟩ = read) ∨
      (tagWord? s = some "else" ∧ ∃ r r' body, openTag? "else" s = some r ∧
        closeTag .conditional start r = .ok r' ∧ content names r' = .ok body ∧
        ⟨some body.found, body.names, body.rest⟩ = read) := by
  rw [otherwise]
  by_cases hword : tagWord? s = some "else" <;>
    simp [hword, bind_eq_ok, map_eq_ok, openTag_eq_ok_iff]

theorem conditional_eq_ok_iff {read : Read Node} :
    conditional source content names s = .ok read ↔
      ∃ r first more last rest, openTag? "if" s = some r ∧ branch content s names r = .ok first ∧
        furtherBranches content s first.rest.length first.names first.rest = .ok more ∧
        otherwise content s more.names more.rest = .ok last ∧
        endClause "endif" .conditional s last.rest = .ok rest ∧
        ⟨.conditional (Position.before source s) (first.found :: more.found) last.found, last.names,
          rest⟩ = read := by
  simp [conditional, bind_eq_ok, map_eq_ok, openTag_eq_ok_iff]

/-- A statement is told from the others by the word of its tag. -/
theorem statement_eq_ok_iff {read : Read Node} :
    statement source content names s = .ok read ↔
      (tagWord? s = some "block" ∧ ∃ o, block source content names s = .ok o ∧
        ⟨.block o.found.position o.found.name o.found.content, o.names, o.rest⟩ = read) ∨
      (tagWord? s = some "include" ∧ ∃ node rest, inclusion source s = .ok (node, rest) ∧
        ⟨node, names, rest⟩ = read) ∨
      (tagWord? s = some "for" ∧ loop source content names s = .ok read) ∨
      (tagWord? s = some "if" ∧ conditional source content names s = .ok read) ∨
      (tagWord? s = some "set" ∧ ∃ node rest, assignment source s = .ok (node, rest) ∧
        ⟨node, names, rest⟩ = read) := by
  simp only [statement]
  split
  case h_6 => simp_all [throw_ne_ok]
  all_goals rename_i hword; simp [hword, Prod.exists, map_eq_ok]

end

/-! ## Content -/

/-- Neither a tag nor a comment starts here. -/
structure Unmarked (s : List Char) : Prop where
  output : mark? "\x7b\x7b" s = none
  statement : mark? "\x7b%" s = none
  comment : comment? s = none

theorem unmarked_char {c : Char} (h : c ≠ '\x7b') (s : List Char) : Unmarked (c :: s) := by
  have hstop : Stops (· == '\x7b') (c :: s) := Stops.cons (by simpa using h)
  exact ⟨mark?_of_stops hstop rfl, mark?_of_stops hstop rfl, comment?_of_ne h s⟩

variable (source)

theorem contentUpTo_unmarked {c : Char} {s : List Char} (h : Unmarked (c :: s)) (n : Nat) (text : List Char)
    (names : List String) :
    contentUpTo source (n + 1) text names (c :: s) = contentUpTo source n (c :: text) names s := by
  rw [contentUpTo]
  simp only [h.output, h.statement, h.comment, Option.isSome_none, Bool.false_eq_true, if_false]

theorem contentUpTo_comment {s rest : List Char} (h : comment? s = some rest) (n : Nat) (text : List Char)
    (names : List String) :
    contentUpTo source (n + 1) text names s = contentUpTo source n text names rest := by
  obtain ⟨body, rfl⟩ := comment?_head h
  have houtput : mark? "\x7b\x7b" ('\x7b' :: '#' :: body) = none := rfl
  have hopen : mark? "\x7b%" ('\x7b' :: '#' :: body) = none := rfl
  rw [contentUpTo]
  simp only [houtput, hopen, h, Option.isSome_none, Bool.false_eq_true, if_false]

/-- The first step of reading content, behind `text`, and what is read in further steps. -/
inductive Step (n : Nat) (text : List Char) (names : List String) : List Char → Read Content → Prop
  | source : Step n text names [] ⟨withText text [], names, []⟩
  | closing {s : List Char} {word : String} : tagWord? s = some word → word ∈ closingWords →
      Step n text names s ⟨withText text [], names, s⟩
  | output {s rest : List Char} {node : Node} {more : Read Content} : (mark? "\x7b\x7b" s).isSome →
      output source s = .ok (node, rest) → contentUpTo source n [] names rest = .ok more →
      Step n text names s ⟨withText text (node :: more.found), more.names, more.rest⟩
  | statement {s : List Char} {node : Read Node} {more : Read Content} :
      statement source (contentUpTo source n []) names s = .ok node →
      contentUpTo source n [] node.names node.rest = .ok more →
      Step n text names s ⟨withText text (node.found :: more.found), more.names, more.rest⟩
  | verbatim {s body rest : List Char} {read : Read Content} : tagWord? s = some "verbatim" →
      verbatim s = .ok (body, rest) → contentUpTo source n (body.reverse ++ text) names rest = .ok read →
      Step n text names s read
  | comment {s rest : List Char} {read : Read Content} : comment? s = some rest →
      contentUpTo source n text names rest = .ok read → Step n text names s read
  | char {c : Char} {s : List Char} {read : Read Content} : Unmarked (c :: s) →
      contentUpTo source n (c :: text) names s = .ok read → Step n text names (c :: s) read

theorem mark?_of_tagWord? {s : List Char} {word : String} (h : tagWord? s = some word) :
    ∃ t, s = '\x7b' :: '%' :: t := by
  unfold tagWord? at h
  split at h
  · rename_i t hmark
    exact ⟨t, Text.after?_eq_some_iff.mp hmark⟩
  · cases h

/-- What is done at a tag depends on its word. -/
theorem contentUpTo_of_tagWord? {s : List Char} {word : String} (h : tagWord? s = some word) (n : Nat)
    (text : List Char) (names : List String) :
    contentUpTo source (n + 1) text names s =
      if word = "verbatim" then (do
        let (body, rest) ← verbatim s
        contentUpTo source n (body.reverse ++ text) names rest)
      else if closingWords.contains word then .ok ⟨withText text [], names, s⟩
      else (do
        let read ← statement source (contentUpTo source n []) names s
        let more ← contentUpTo source n [] read.names read.rest
        return ⟨withText text (read.found :: more.found), more.names, more.rest⟩) := by
  obtain ⟨t, rfl⟩ := mark?_of_tagWord? h
  have houtput : mark? "\x7b\x7b" ('\x7b' :: '%' :: t) = none := rfl
  have hopen : mark? "\x7b%" ('\x7b' :: '%' :: t) = some t := rfl
  rw [contentUpTo]
  simp only [houtput, hopen, h, Option.isSome_none, Option.isSome_some, Bool.false_eq_true, if_false, if_true]
  by_cases hverbatim : word = "verbatim"
  · subst hverbatim
    rfl
  · rw [if_neg hverbatim]
    split
    · rename_i heq
      exact absurd (Option.some.inj heq) hverbatim
    · rfl

theorem statementWord {s : List Char} {content : Statement Content} {read : Read Node}
    (h : statement source content names s = .ok read) :
    ∃ word ∈ ["block", "include", "for", "if", "set"], tagWord? s = some word := by
  rcases statement_eq_ok_iff.mp h with ⟨hword, -⟩ | ⟨hword, -⟩ | ⟨hword, -⟩ | ⟨hword, -⟩ | ⟨hword, -⟩
  all_goals exact ⟨_, by decide, hword⟩

/-- What content reads, it reads in a first step and further ones. -/
theorem step_of_contentUpTo {n : Nat} {text : List Char} {s : List Char} {read : Read Content}
    (h : contentUpTo source (n + 1) text names s = .ok read) : Step source n text names s read := by
  cases s with
  | nil => cases h; exact .source
  | cons c s =>
    rw [contentUpTo] at h
    split at h
    · rename_i hmark
      obtain ⟨⟨node, rest⟩, hnode, h⟩ := bind_eq_ok.mp h
      obtain ⟨more, hmore, h⟩ := bind_eq_ok.mp h
      cases h
      exact .output hmark hnode hmore
    rename_i houtput
    split at h
    · split at h
      · rename_i hword
        obtain ⟨⟨body, rest⟩, hbody, h⟩ := bind_eq_ok.mp h
        exact .verbatim hword hbody h
      · split at h
        · rename_i hclosing
          cases h
          obtain ⟨word, hword, hmem⟩ := (Option.any_eq_true _ _).mp hclosing
          exact .closing hword (List.contains_iff_mem.mp hmem)
        · obtain ⟨node, hnode, h⟩ := bind_eq_ok.mp h
          obtain ⟨more, hmore, h⟩ := bind_eq_ok.mp h
          cases h
          exact .statement hnode hmore
    · rename_i hopen
      split at h
      · rename_i rest hcomment
        exact .comment hcomment h
      · rename_i hcomment
        exact .char ⟨by simpa using houtput, by simpa using hopen, hcomment⟩ h

/-- Each step is one of the rule for content. -/
theorem contentUpTo_of_step {n : Nat} {text : List Char} {s : List Char} {read : Read Content}
    (h : Step source n text names s read) : contentUpTo source (n + 1) text names s = .ok read := by
  cases h with
  | source => rfl
  | closing hword hmem =>
    have hverbatim : ∀ word ∈ closingWords, word ≠ "verbatim" := by decide
    rw [contentUpTo_of_tagWord? source hword, if_neg (hverbatim _ hmem),
      if_pos (List.contains_iff_mem.mpr hmem)]
  | output hmark hnode hmore =>
    cases s with
    | nil => cases hmark
    | cons c s =>
      rw [contentUpTo, if_pos hmark, hnode]
      simp only [ok_bind, hmore]
      rfl
  | statement hnode hmore =>
    obtain ⟨word, hmem, hword⟩ := statementWord source hnode
    have hother : ∀ word ∈ ["block", "include", "for", "if", "set"],
        word ≠ "verbatim" ∧ closingWords.contains word = false := by decide
    obtain ⟨hverbatim, hclosing⟩ := hother word hmem
    rw [contentUpTo_of_tagWord? source hword, if_neg hverbatim, hclosing, hnode]
    simp only [ok_bind, hmore]
    rfl
  | verbatim hword hbody hread =>
    rw [contentUpTo_of_tagWord? source hword, if_pos rfl, hbody]
    exact hread
  | comment hcomment hread =>
    rw [contentUpTo_comment source hcomment]
    exact hread
  | char hmark hread =>
    rw [contentUpTo_unmarked source hmark]
    exact hread

theorem contentUpTo_succ_iff {n : Nat} {text : List Char} {s : List Char} {read : Read Content} :
    contentUpTo source (n + 1) text names s = .ok read ↔ Step source n text names s read :=
  ⟨step_of_contentUpTo source, contentUpTo_of_step source⟩

/-! ## Documents -/

theorem overrides_succ_iff {n : Nat} {s : List Char} {found : List Override} :
    overrides source (n + 1) names s = .ok found ↔
      (skipSpacing s = [] ∧ [] = found) ∨
      (tagWord? (skipSpacing s) = some "block" ∧ ∃ first more,
        block source (content source) names (skipSpacing s) = .ok first ∧
        overrides source n first.names first.rest = .ok more ∧ first.found :: more = found) := by
  rw [overrides]
  by_cases hempty : skipSpacing s = []
  · have hword : tagWord? [] ≠ some "block" := by decide
    simp [hempty, hword]
  · by_cases hword : tagWord? (skipSpacing s) = some "block" <;>
      simp [hempty, hword, bind_eq_ok, map_eq_ok]

theorem document_eq_ok_iff {document : Document} :
    Grammar.document source = .ok document ↔
      (tagWord? (skipSpacing source) = some "extends" ∧ ∃ r parent r' r'' found,
        openTag? "extends" (skipSpacing source) = some r ∧ string? r = .ok (some parent, r') ∧
        closeTag .inheritance (skipSpacing source) r' = .ok r'' ∧
        overrides source (r''.length + 1) [] r'' = .ok found ∧
        .extending (Position.before source (skipSpacing source)) parent found = document) ∨
      (tagWord? (skipSpacing source) ≠ some "extends" ∧ ∃ read, content source [] source = .ok read ∧
        read.rest = [] ∧ .root read.found = document) := by
  simp only [Grammar.document]
  by_cases hword : tagWord? (skipSpacing source) = some "extends"
  · simp [hword, extending, bind_eq_ok, Prod.exists, map_eq_ok, openTag_eq_ok_iff, templateName_eq_ok_iff]
  · simp [hword, root, bind_eq_ok]
    refine exists_congr fun read => and_congr_right fun _ => ?_
    by_cases hrest : read.rest = [] <;> simp [hrest, pure_eq_ok, throw_ne_ok]

end TemplateEngine.Grammar

namespace TemplateEngine

theorem Document.parse_eq_ok_iff {source : String} {d : Document} :
    Document.parse source = .ok d ↔ Grammar.document source.toList = .ok d := Except.mapError_eq_ok

end TemplateEngine
