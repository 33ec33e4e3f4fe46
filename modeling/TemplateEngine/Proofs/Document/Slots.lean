/-
  TemplateEngine.Proofs.Document.Slots — an expression means the same wherever it is written.

  A template may hold an expression in an output tag, behind the sign of an assignment, as a
  condition and as the collection of a loop (`Slot`). What ends the slot starts like an
  operator (`%`), a stage (`|`) or the end of a map, and none of them is taken for it
  (`Halts`). So the expression is read there as it is read alone, with spacing around it.

  Proved:
  - `expression_anywhere`: an expression that stands alone is read in front of each text that
    ends it.
  - `parse_in_slot`: with its slot around it, it is the template of one node that holds it.
-/

import TemplateEngine.Proofs.Document.Content
import TemplateEngine.Proofs.Locality.Tags
import TemplateEngine.Proofs.Position

namespace TemplateEngine.Grammar

open Scan

variable {q t : List Char}

/-- An expression that stands alone, with spacing around it and something behind it that ends it. -/
theorem expression_anywhere {s : String} {e : Expr} (h : Expr.parse s = .ok e) {w w' : List Char}
    (hw : Spacing w) (hw' : Spacing w') (ht : Halts [] t) :
    expression (skipSpacing (w ++ (s.toList ++ (w' ++ t)))) = .ok (some e, skipSpacing t) := by
  have hread := Expr.parse_eq_ok_iff.mp h
  obtain ⟨-, w₀, hw₀, hs⟩ := spacing_skipSpacing s.toList
  generalize skipSpacing s.toList = p at hread hs
  have hp : expression (p ++ []) = .ok (some e, [] ++ []) := by rwa [List.append_nil]
  have hfirm := (cut_of_takes (expression_yields _ _ _ hp).2.1).1
  have ht' : Halts [] (w' ++ t) := ht.spaced hw'
  rw [skipSpacing_append hw, hs, List.append_assoc, skipSpacing_append hw₀, hfirm.skipSpacing_append,
    ← skipSpacing_append hw' t]
  exact expression_local (b := []) hp ht'

/-! ## Templates of one node -/

variable {S : List Char}

/-- A tag whose word is followed by whatever ends the word. -/
def wordTag (word : String) (inside : List Char) : List Char :=
  '\x7b' :: '%' :: ' ' :: (word.toList ++ inside)

/-- The rule for content reads nothing in front of a clause that ends it. -/
def EmptyContent (content : Statement Content) : Prop :=
  ∀ word ∈ closingWords, ∀ inside, Stops isLetterOrDigit inside →
    content [] (wordTag word inside) = .ok ⟨[], [], wordTag word inside⟩

theorem emptyContent_contentUpTo (n : Nat) : EmptyContent (contentUpTo S (n + 1) []) :=
  fun word hword _ hinside => (contentUpTo_succ_iff S).mpr
    (.closing (tagWord?_word (closingWords_keywords word hword) hinside) hword)

theorem document_of_statement {word : String} {t : List Char} {node : Node}
    (hS : S = '\x7b' :: '%' :: t) (hword : tagWord? S = some word) (hroot : word ≠ "extends")
    (h : ∀ content, EmptyContent content → statement S content [] S = .ok ⟨node, [], []⟩) :
    Grammar.document S = .ok (.root [node]) := by
  have hskip : skipSpacing S = S := skipSpacing_of_unspaced (hS ▸ ⟨fun _ hc => Option.some.inj hc ▸ rfl, rfl⟩)
  have hcontent : content S [] S = .ok ⟨[node], [], []⟩ := by
    have hlen : S.length = t.length + 1 + 1 := by rw [hS]; rfl
    rw [content, hlen]
    exact (contentUpTo_succ_iff S).mpr (.statement (h _ (emptyContent_contentUpTo t.length))
      (contentUpTo_ends S .source (by simp) [] []))
  refine (document_eq_ok_iff S).mpr (.inr ⟨?_, _, hcontent, rfl, rfl⟩)
  rw [hskip, hword]
  exact fun h => hroot (Option.some.inj h)

end TemplateEngine.Grammar

namespace TemplateEngine

open Grammar Scan

/-- Where an expression may be written in a template. -/
inductive Slot where
  | output
  | assignment (name : String)
  | condition
  | furtherCondition
  | collection (name : String)
  | filteredCollection (name filter : String)

namespace Slot

/-- What stands in front of the expression, at the start of the template. -/
def opening : Slot → String
  | .output => "\x7b\x7b"
  | .assignment name => "\x7b% set " ++ name ++ " ="
  | .condition => "\x7b% if"
  | .furtherCondition => "\x7b% if true %\x7d\x7b% elseif"
  | .collection v | .filteredCollection v _ => "\x7b% for " ++ v ++ " in"

/-- What stands behind the expression, up to the end of the template. -/
def closing : Slot → String
  | .output => "\x7d\x7d"
  | .assignment _ => "%\x7d"
  | .condition | .furtherCondition => "%\x7d\x7b% endif %\x7d"
  | .collection _ => "%\x7d\x7b% endfor %\x7d"
  | .filteredCollection _ filter => "| filter " ++ filter ++ " %\x7d\x7b% endfor %\x7d"

/-- A word stands in front of the expression. -/
def behindWord : Slot → Bool
  | .output | .assignment _ => false
  | .condition | .furtherCondition | .collection _ | .filteredCollection _ _ => true

/-- The names in the slot are names. -/
def Named : Slot → Prop
  | .output | .condition | .furtherCondition => True
  | .assignment name | .collection name => isName name = true
  | .filteredCollection name filter => isName name = true ∧ isName filter = true

/-- The node of the slot with an expression in it, at the start of a template. -/
def node (e : Expr) : Slot → Node
  | .output => .output ⟨0, 1, 1⟩ e
  | .assignment name => .assignment ⟨0, 1, 1⟩ name e
  | .condition => .conditional ⟨0, 1, 1⟩ [(e, [])] none
  | .furtherCondition => .conditional ⟨0, 1, 1⟩ [(.literal (.bool true), []), (e, [])] none
  | .collection v => .loop ⟨0, 1, 1⟩ (.value v) e [] []
  | .filteredCollection v filter => .loop ⟨0, 1, 1⟩ (.value v) e [.var filter] []

end Slot

namespace Grammar

variable {S p t : List Char} {e : Expr}

/-! ## The slots -/

theorem document_output (h : expression (skipSpacing p) = .ok (some e, '\x7d' :: '\x7d' :: [])) :
    Grammar.document ('\x7b' :: '\x7b' :: p) = .ok (.root [Slot.node e .output]) := by
  set S := '\x7b' :: '\x7b' :: p with hS
  have hskip : skipSpacing S = S := skipSpacing_of_unspaced ⟨fun _ hc => Option.some.inj hc ▸ rfl, rfl⟩
  have hnode : output S S = .ok (Slot.node e .output, []) :=
    output_eq_ok_iff.mpr ⟨e, _, h, rfl, congrArg (Node.output · e) (Position.before_self S)⟩
  have hcontent : content S [] S = .ok ⟨[Slot.node e .output], [], []⟩ :=
    (contentUpTo_succ_iff S).mpr (.output rfl hnode (contentUpTo_ends S .source (by simp) [] []))
  refine (document_eq_ok_iff S).mpr (.inr ⟨?_, _, hcontent, rfl, rfl⟩)
  rw [hskip]
  exact nofun

theorem statement_assignment {name : String} (hname : isName name = true)
    (hS : S = tag "set" (name.toList ++ ' ' :: '=' :: p))
    (h : expression (skipSpacing p) = .ok (some e, tagEnd [])) (content : Statement Content) :
    statement S content [] S = .ok ⟨Slot.node e (.assignment name), [], []⟩ := by
  have hword : tagWord? S = some "set" := hS ▸ tagWord?_tag (by decide) _
  have hopen : openTag? "set" S = some (name.toList ++ ' ' :: '=' :: p) := by
    rw [hS, openTag?_tag (by decide), (firm_name hname).skipSpacing_append]
  have hread : identifier? (name.toList ++ ' ' :: '=' :: p) = some (name, ' ' :: '=' :: p) :=
    identifier?_cons hname rfl _
  have hequals : symbol? "=" (skipSpacing (' ' :: '=' :: p)) = some (skipSpacing p) := by
    rw [skipSpacing_space rfl, skipSpacing_of_unspaced (.cons _ rfl (by decide))]
    exact symbol?_append "=" p
  have hnode : assignment S S = .ok (Slot.node e (.assignment name), []) :=
    assignment_eq_ok_iff.mpr ⟨_, name, _, _, e, _, hopen, hread, hequals, h, closeTag_tagEnd _ _ _,
      congrArg (Node.assignment · name e) (Position.before_self S)⟩
  exact statement_eq_ok_iff.mpr (.inr (.inr (.inr (.inr ⟨hword, _, _, hnode, rfl⟩))))

section

variable {content : Statement Content} (hcontent : EmptyContent content)
include hcontent

theorem branch_empty {word : String} (hword : word ∈ closingWords) {inside s : List Char}
    (hinside : Stops isLetterOrDigit inside)
    (h : expression s = .ok (some e, tagEnd (wordTag word inside))) (start : List Char) :
    branch content start [] s = .ok ⟨(e, []), [], wordTag word inside⟩ :=
  branch_eq_ok_iff.mpr ⟨e, _, _, _, h, closeTag_tagEnd _ _ _, hcontent word hword inside hinside, rfl⟩

omit hcontent in
variable (content) in
/-- At the end of a conditional there is no further branch. -/
theorem clauses_endif (start inside : List Char) (n : Nat) (names : List String) :
    furtherBranches content start n names (tag "endif" inside) = .ok ⟨[], names, tag "endif" inside⟩ ∧
      otherwise content start names (tag "endif" inside) = .ok ⟨none, names, tag "endif" inside⟩ := by
  have hword : tagWord? (tag "endif" inside) = some "endif" := tagWord?_tag (by decide) inside
  refine ⟨?_, otherwise_eq_ok_iff.mpr (.inl ⟨by rw [hword]; decide, rfl⟩)⟩
  cases n with
  | zero => rfl
  | succ n => exact furtherBranches_succ_iff.mpr (.inl ⟨by rw [hword]; decide, rfl⟩)

theorem statement_condition (hp : Stops isLetterOrDigit p) (hS : S = wordTag "if" p)
    (h : expression (skipSpacing p) = .ok (some e, tagEnd (tag "endif" (tagEnd [])))) :
    statement S content [] S = .ok ⟨Slot.node e .condition, [], []⟩ := by
  have hword : tagWord? S = some "if" := hS ▸ tagWord?_word (by decide) hp
  have hopen : openTag? "if" S = some (skipSpacing p) := hS ▸ openTag?_word (by decide) hp
  have hbranch := branch_empty hcontent (show "endif" ∈ closingWords by decide) (Stops.cons rfl) h S
  obtain ⟨hmore, hlast⟩ := clauses_endif content S (tagEnd [])
    (wordTag "endif" (' ' :: tagEnd [])).length []
  have hnode : conditional S content [] S = .ok ⟨Slot.node e .condition, [], []⟩ :=
    conditional_eq_ok_iff.mpr ⟨_, _, _, _, [], hopen, hbranch, hmore, hlast, endClause_tag (by decide) _ _ _,
      by rw [Position.before_self]; rfl⟩
  exact statement_eq_ok_iff.mpr (.inr (.inr (.inr (.inl ⟨hword, hnode⟩))))

theorem statement_furtherCondition (hp : Stops isLetterOrDigit p)
    (hS : S = tag "if" ("true".toList ++ ' ' :: tagEnd (wordTag "elseif" p)))
    (h : expression (skipSpacing p) = .ok (some e, tagEnd (tag "endif" (tagEnd [])))) :
    statement S content [] S = .ok ⟨Slot.node e .furtherCondition, [], []⟩ := by
  have hword : tagWord? S = some "if" := hS ▸ tagWord?_tag (by decide) _
  have hopen : openTag? "if" S = some ("true".toList ++ ' ' :: tagEnd (wordTag "elseif" p)) := by
    rw [hS, openTag?_tag (by decide), skipSpacing_of_unspaced (unspaced_keyword (by decide) _)]
  have htrue : expression ("true".toList ++ ' ' :: tagEnd (wordTag "elseif" p)) =
      .ok (some (.literal (.bool true)), tagEnd (wordTag "elseif" p)) := by
    have hread : expression ("true".toList ++ []) = .ok (some (.literal (.bool true)), []) := by rfl
    have hhalts : Halts [] (' ' :: tagEnd (wordTag "elseif" p)) :=
      (halts_tagEnd [] _).spaced (.blank rfl .nil)
    rw [← skipSpacing_space_tagEnd]
    exact expression_local (b := []) hread hhalts
  have hfirst := branch_empty hcontent (show "elseif" ∈ closingWords by decide) hp htrue S
  have hsecond := branch_empty hcontent (show "endif" ∈ closingWords by decide) (Stops.cons rfl) h S
  obtain ⟨hmore, hlast⟩ := clauses_endif content S (tagEnd []) (wordTag "elseif" p).tail.length []
  have helse : furtherBranches content S (wordTag "elseif" p).length [] (wordTag "elseif" p) =
      .ok ⟨[(e, [])], [], tag "endif" (tagEnd [])⟩ :=
    furtherBranches_succ_iff.mpr (.inr ⟨tagWord?_word (by decide) hp, _, _, _, openTag?_word (by decide) hp,
      hsecond, hmore, rfl⟩)
  have hnode : conditional S content [] S = .ok ⟨Slot.node e .furtherCondition, [], []⟩ :=
    conditional_eq_ok_iff.mpr ⟨_, _, _, _, [], hopen, hfirst, helse, hlast, endClause_tag (by decide) _ _ _,
      by rw [Position.before_self]; rfl⟩
  exact statement_eq_ok_iff.mpr (.inr (.inr (.inr (.inl ⟨hword, hnode⟩))))

theorem statement_loop {name : String} (hname : isName name = true) (hp : Stops isLetterOrDigit p)
    (hS : S = tag "for" (name.toList ++ ' ' :: ("in".toList ++ p))) {r : List Char} {filters : List Expr}
    (h : expression (skipSpacing p) = .ok (some e, r))
    (hfilters : loopFilters S r.length r = .ok (filters, tagEnd (tag "endfor" (tagEnd [])))) :
    statement S content [] S = .ok ⟨.loop ⟨0, 1, 1⟩ (.value name) e filters [], [], []⟩ := by
  have hword : tagWord? S = some "for" := hS ▸ tagWord?_tag (by decide) _
  have hopen : openTag? "for" S = some (name.toList ++ ' ' :: ("in".toList ++ p)) := by
    rw [hS, openTag?_tag (by decide), (firm_name hname).skipSpacing_append]
  have hskip : skipSpacing (' ' :: ("in".toList ++ p)) = "in".toList ++ p := by
    rw [skipSpacing_space rfl, skipSpacing_of_unspaced (unspaced_keyword (by decide) _)]
  have hvariable : loopVariable S (name.toList ++ ' ' :: ("in".toList ++ p)) = .ok (name, "in".toList ++ p) :=
    loopVariable_eq_ok_iff.mpr ⟨_, identifier?_cons hname rfl _, hskip⟩
  have htarget : loopTarget S (name.toList ++ ' ' :: ("in".toList ++ p)) = .ok (.value name, "in".toList ++ p) :=
    loopTarget_eq_ok_iff.mpr ⟨name, _, hvariable, .inl ⟨rfl, rfl, rfl⟩⟩
  have hin : keyword? "in" ("in".toList ++ p) = some (skipSpacing p) := keyword?_append (by decide) hp
  have hbody := hcontent "endfor" (by decide) (' ' :: tagEnd []) (Stops.cons rfl)
  have hnode : loop S content [] S = .ok ⟨.loop ⟨0, 1, 1⟩ (.value name) e filters [], [], []⟩ :=
    loop_eq_ok_iff.mpr ⟨_, _, _, _, e, _, filters, _, _, _, [], hopen, htarget, hin, h, hfilters,
      closeTag_tagEnd _ _ _, hbody, endClause_tag (by decide) _ _ _,
      by rw [Position.before_self]⟩
  exact statement_eq_ok_iff.mpr (.inr (.inr (.inl ⟨hword, hnode⟩)))

end

theorem loopFilters_var {filter : String} (hfilter : isName filter = true) (start rest : List Char) (n : Nat) :
    loopFilters start (n + 1) ('|' :: ' ' :: ("filter".toList ++ ' ' :: (filter.toList ++ ' ' :: tagEnd rest))) =
      .ok ([.var filter], tagEnd rest) := by
  have hmark : symbol? "|" ('|' :: ' ' :: ("filter".toList ++ ' ' :: (filter.toList ++ ' ' :: tagEnd rest))) =
      some ("filter".toList ++ ' ' :: (filter.toList ++ ' ' :: tagEnd rest)) := symbol?_filter _
  have hword : keyword? "filter" ("filter".toList ++ ' ' :: (filter.toList ++ ' ' :: tagEnd rest)) =
      some (filter.toList ++ ' ' :: tagEnd rest) := by
    rw [keyword?_append (by decide) (Stops.cons rfl), skipSpacing_space rfl,
      (firm_name hfilter).skipSpacing_append]
  have hread : functionReference expression (filter.toList ++ ' ' :: tagEnd rest) =
      .ok (some (.var filter), tagEnd rest) := by
    rw [Expr.functionReference_var hfilter (Stops.cons rfl), skipSpacing_space_tagEnd]
  have hend := loopFilters_tagEnd start rest n
  rw [loopFilters_eq_rounds] at hend ⊢
  refine rounds_succ_iff.mpr (.inr ⟨_, _, [], furtherFilter_eq_some_iff.mpr ⟨_, ?_, hread⟩, hend, rfl⟩)
  rw [hmark]
  exact hword

theorem closing_assignment (name : String) : (Slot.assignment name).closing.toList = tagEnd [] :=
  show "%\x7d".toList = tagEnd [] from rfl

theorem closing_collection (v : String) :
    (Slot.collection v).closing.toList = tagEnd (tag "endfor" (tagEnd [])) :=
  show "%\x7d\x7b% endfor %\x7d".toList = tagEnd (tag "endfor" (tagEnd [])) from rfl

theorem closing_filteredCollection (v filter : String) :
    (Slot.filteredCollection v filter).closing.toList =
      '|' :: ' ' :: ("filter".toList ++ ' ' :: (filter.toList ++ ' ' :: tagEnd (tag "endfor" (tagEnd [])))) := by
  simp [Slot.closing, tag, tagEnd]

/-- What stands behind a slot ends the expression in it. -/
theorem halts_closing (slot : Slot) : Halts [] slot.closing.toList ∧ Unspaced slot.closing.toList := by
  cases slot with
  | output => exact ⟨Halts.closer (c := '\x7d') (by decide) [] ['\x7d'], .cons _ rfl (by decide)⟩
  | assignment name =>
    rw [closing_assignment]
    exact ⟨halts_tagEnd [] [], unspaced_tagEnd []⟩
  | condition | furtherCondition => exact ⟨halts_tagEnd [] (tag "endif" (tagEnd [])), unspaced_tagEnd _⟩
  | collection v =>
    rw [closing_collection]
    exact ⟨halts_tagEnd [] (tag "endfor" (tagEnd [])), unspaced_tagEnd _⟩
  | filteredCollection v filter =>
    rw [closing_filteredCollection]
    exact ⟨halts_filter [] (Stops.cons rfl), .cons _ rfl (by decide)⟩

/-- A slot with a text in it that is read as an expression up to what closes the slot. -/
theorem document_in_slot (slot : Slot) (hslot : slot.Named)
    (hword : slot.behindWord = true → Stops isLetterOrDigit p)
    (h : expression (skipSpacing p) = .ok (some e, slot.closing.toList)) :
    Grammar.document (slot.opening.toList ++ p) = .ok (.root [slot.node e]) := by
  cases slot with
  | output => exact document_output h
  | assignment name =>
    have hS : (Slot.assignment name).opening.toList ++ p = tag "set" (name.toList ++ ' ' :: '=' :: p) := by
      simp [Slot.opening, tag]
    rw [hS]
    rw [closing_assignment] at h
    exact document_of_statement rfl (tagWord?_tag (by decide) _) (by decide) fun content _ =>
      statement_assignment hslot rfl h content
  | condition =>
    have hp := hword rfl
    exact document_of_statement (S := wordTag "if" p) rfl (tagWord?_word (by decide) hp) (by decide)
      fun _ hcontent => statement_condition hcontent hp rfl h
  | furtherCondition =>
    have hS : Slot.furtherCondition.opening.toList ++ p =
        tag "if" ("true".toList ++ ' ' :: tagEnd (wordTag "elseif" p)) := by
      simp [Slot.opening, tag, tagEnd, wordTag]
    rw [hS]
    exact document_of_statement rfl (tagWord?_tag (by decide) _) (by decide) fun _ hcontent =>
      statement_furtherCondition hcontent (hword rfl) rfl h
  | collection v =>
    have hS : (Slot.collection v).opening.toList ++ p = tag "for" (v.toList ++ ' ' :: ("in".toList ++ p)) := by
      simp [Slot.opening, tag]
    rw [hS]
    rw [closing_collection] at h
    exact document_of_statement rfl (tagWord?_tag (by decide) _) (by decide) fun _ hcontent =>
      statement_loop hcontent hslot (hword rfl) rfl h (loopFilters_tagEnd _ _ _)
  | filteredCollection v filter =>
    have hS : (Slot.filteredCollection v filter).opening.toList ++ p =
        tag "for" (v.toList ++ ' ' :: ("in".toList ++ p)) := by
      simp [Slot.opening, tag]
    rw [hS]
    rw [closing_filteredCollection] at h
    exact document_of_statement rfl (tagWord?_tag (by decide) _) (by decide) fun _ hcontent =>
      statement_loop hcontent hslot.1 (hword rfl) rfl h (loopFilters_var hslot.2 _ _ _)

end Grammar

/-- An expression is the same in each slot, with spacing around it. A word in front of it has
    to end: there the spacing must not be empty. -/
theorem parse_in_slot (slot : Slot) (hslot : slot.Named) {s : String} {e : Expr}
    (h : Expr.parse s = .ok e) {w w' : String} (hw : Spacing w.toList) (hw' : Spacing w'.toList)
    (hword : slot.behindWord = true → w ≠ "") :
    Document.parse (slot.opening ++ (w ++ s ++ w') ++ slot.closing) = .ok (.root [slot.node e]) ∧
      Expr.parse (w ++ s ++ w') = .ok e := by
  have hinside : ∀ {t}, Halts [] t → Unspaced t →
      expression (skipSpacing (w.toList ++ (s.toList ++ (w'.toList ++ t)))) = .ok (some e, t) := by
    intro t ht hunspaced
    rw [expression_anywhere h hw hw' ht, skipSpacing_of_unspaced hunspaced]
  have hends (hbehind : slot.behindWord = true) (t : List Char) : Stops isLetterOrDigit (w.toList ++ t) :=
    hw.stopsWord (fun hempty => hword hbehind (String.toList_eq_nil_iff.mp hempty)) t
  constructor
  · obtain ⟨hhalts, hunspaced⟩ := halts_closing slot
    have hdocument := document_in_slot slot hslot (fun hbehind => hends hbehind _) (hinside hhalts hunspaced)
    rw [Document.parse_eq_ok_iff]
    simpa only [String.toList_append, List.append_assoc] using hdocument
  · rw [Expr.parse_eq_ok_iff]
    have hread := hinside (Halts.nil []) .nil
    rwa [String.toList_append, String.toList_append, List.append_assoc, ← List.append_nil w'.toList]

/-- A remainder behind which a comment with the end of a tag, a stage's mark and a filter stand. -/
theorem parse_in_slot_remainder :
    Document.parse "\x7b% for v in a % b\x7b# %\x7d #\x7d| filter f %\x7d\x7b% endfor %\x7d" =
        .ok (.root [.loop ⟨0, 1, 1⟩ (.value "v") (.chain [.var "a", .var "b"] [.remainder]) [.var "f"] []]) ∧
      Expr.parse " a % b\x7b# %\x7d #\x7d" = .ok (.chain [.var "a", .var "b"] [.remainder]) := by
  have hparse : Expr.parse "a % b" = .ok (.chain [.var "a", .var "b"] [.remainder]) := by rfl
  have hblank : Spacing " ".toList := .blank rfl .nil
  have hbody : ¬ "#\x7d".toList <:+: " %\x7d ".toList := by decide
  have hcomment : Spacing "\x7b# %\x7d #\x7d".toList := .comment hbody .nil
  have hsource : (Slot.filteredCollection "v" "f").opening ++ (" " ++ "a % b" ++ "\x7b# %\x7d #\x7d") ++
      (Slot.filteredCollection "v" "f").closing =
        "\x7b% for v in a % b\x7b# %\x7d #\x7d| filter f %\x7d\x7b% endfor %\x7d" := by decide
  have halone : " " ++ "a % b" ++ "\x7b# %\x7d #\x7d" = " a % b\x7b# %\x7d #\x7d" := by decide
  have h := parse_in_slot (.filteredCollection "v" "f") ⟨by decide, by decide⟩ hparse hblank hcomment
    (by decide)
  rw [hsource, halone] at h
  exact h

end TemplateEngine
