/-
  TemplateEngine.Proofs.Document.Content — printed contents read back.

  `ReadBack content` says that the text of the content is read as that content, up to
  positions, and that reading stops in front of the tag that closes it. It holds of a
  content if it holds of the contents inside its nodes: those are read with a block's
  name, a branch or a loop open, and the rest goes node by node. A text ends where the next
  node starts, which is no text.

  Proved:
  - `verbatim_written`: the inside of a verbatim statement is read as it is, if no tag in it
    is taken for the end.
  - `nodeReadBack_block`, `nodeReadBack_loop`, `nodeReadBack_conditional` and the others: a
    node of the kind is read back if the contents inside it are.
  - `contentUpTo_nodes`: the nodes of a content are read one after the other, behind text
    that is not finished yet if the first of them is none.
  - `readBack_of_printable`: all printable contents are read back.
-/

import TemplateEngine.Proofs.Document.Statements
import TemplateEngine.Proofs.Grammar.StatementInversion

namespace TemplateEngine.Grammar

open Scan TemplateEngine.Except
open TemplateEngine.Expr (Place)

variable (extra : Place → Expr → Bool) (source : List Char)

/-! ## Content, one step -/

/-- Content ends here: with the source or in front of a closing tag. -/
inductive Ends : List Char → Prop
  | source : Ends []
  | closing {word : String} (inside : List Char) : word ∈ closingWords → Ends (tag word inside)

theorem closingWords_keywords : ∀ word ∈ closingWords, isKeyword word = true := by decide

/-- What is done at a tag depends on its word. -/
theorem contentUpTo_tag {word : String} (h : isKeyword word = true) (inside : List Char) (n : Nat)
    (text : List Char) (names : List String) :
    contentUpTo source (n + 1) text names (tag word inside) =
      if word = "verbatim" then (do
        let (body, rest) ← verbatim (tag word inside)
        contentUpTo source n (body.reverse ++ text) names rest)
      else if closingWords.contains word then .ok ⟨withText text [], names, tag word inside⟩
      else (do
        let read ← statement source (contentUpTo source n []) names (tag word inside)
        let more ← contentUpTo source n [] read.names read.rest
        return ⟨withText text (read.found :: more.found), more.names, more.rest⟩) :=
  contentUpTo_of_tagWord? source (tagWord?_tag h inside) n text names

theorem contentUpTo_ends {rest : List Char} (h : Ends rest) {n : Nat} (hn : rest.length ≤ n)
    (text : List Char) (names : List String) :
    contentUpTo source n text names rest = .ok ⟨withText text [], names, rest⟩ := by
  cases n with
  | zero => rfl
  | succ n =>
    cases h with
    | source => rfl
    | @closing word inside hword =>
      have hverbatim : word ≠ "verbatim" := by
        rintro rfl
        exact absurd hword (by decide)
      rw [contentUpTo_tag source (closingWords_keywords word hword), if_neg hverbatim,
        if_pos (List.contains_iff_mem.mpr hword)]

/-- No tag inside the text is taken for the end of the verbatim statement around it; what
    follows the statement may take part in the spacing of a tag inside. -/
def Unclosed (body rest : List Char) : Prop :=
  ∀ before after, body = before ++ '\x7b' :: '%' :: after →
    tagWord? ('\x7b' :: '%' :: (after ++ tag "endverbatim" (tagEnd rest))) ≠ some "endverbatim"

theorem verbatimBody?_append {body rest : List Char} (h : Unclosed body rest) :
    verbatimBody? (body ++ tag "endverbatim" (tagEnd rest)) = some (body, tag "endverbatim" (tagEnd rest)) := by
  induction body with
  | nil =>
    have hcons : tag "endverbatim" (tagEnd rest) =
      '\x7b' :: '%' :: ' ' :: ("endverbatim".toList ++ ' ' :: tagEnd rest) := rfl
    rw [List.nil_append, hcons, verbatimBody?, ← hcons, tagWord?_tag (by decide), if_pos rfl]
  | cons c cs ih =>
    have htail : Unclosed cs rest := fun before after hcs => h (c :: before) after (congrArg (c :: ·) hcs)
    have hword : tagWord? (c :: (cs ++ tag "endverbatim" (tagEnd rest))) ≠ some "endverbatim" := by
      intro hword
      have hmark : (mark? "\x7b%" (c :: (cs ++ tag "endverbatim" (tagEnd rest)))).isSome := by
        unfold tagWord? at hword
        split at hword
        · rename_i hmark
          rw [hmark]
          rfl
        · cases hword
      obtain ⟨after, hafter⟩ := Option.isSome_iff_exists.mp hmark
      have hopens : c :: (cs ++ tag "endverbatim" (tagEnd rest)) = '\x7b' :: '%' :: after :=
        Text.after?_eq_some_iff.mp hafter
      cases cs with
      | nil => cases hopens
      | cons d cs =>
        cases hopens
        exact h [] cs rfl hword
    rw [List.cons_append, verbatimBody?, if_neg hword, ih htail]
    rfl

theorem verbatim_written {body rest : List Char} (h : Unclosed body rest) :
    verbatim (tag "verbatim" (tagEnd (body ++ tag "endverbatim" (tagEnd rest)))) = .ok (body, rest) := by
  rw [verbatim, openTag_tag (by decide) (unspaced_tagEnd _)]
  simp only [Except.ok_bind, closeTag_tagEnd, verbatimBody?_append h,
    openTag_tag (by decide : isKeyword "endverbatim" = true) (unspaced_tagEnd _)]
  rfl

/-- A brace in a verbatim statement of its own is read as that brace. -/
theorem verbatim_brace (rest : List Char) :
    verbatim (tag "verbatim" (tagEnd ('\x7b' :: tag "endverbatim" (tagEnd rest)))) = .ok (['\x7b'], rest) := by
  have hunclosed : Unclosed ['\x7b'] rest := by
    intro before after h
    cases before with
    | nil => cases h
    | cons c before => cases before <;> cases h
  exact verbatim_written hunclosed

/-- The text of a text node is added to the text before it. -/
theorem contentUpTo_text (cs : List Char) {rest : List Char} {n : Nat}
    (hn : (printText cs rest).length ≤ n) (text : List Char) (names : List String) :
    ∃ m, rest.length ≤ m ∧ contentUpTo source n text names (printText cs rest) =
      contentUpTo source m (cs.reverse ++ text) names rest := by
  induction cs generalizing n text with
  | nil => exact ⟨n, hn, rfl⟩
  | cons c cs ih =>
    rw [printText] at hn ⊢
    split at hn
    · rename_i hc
      subst hc
      rw [if_pos rfl]
      simp only [length_tag, length_tagEnd, List.length_cons] at hn
      obtain ⟨k, rfl⟩ : ∃ k, n = k + 1 := ⟨n - 1, by omega⟩
      obtain ⟨m, hm, hread⟩ := ih (n := k) (by omega) ('\x7b' :: text)
      refine ⟨m, hm, ?_⟩
      rw [contentUpTo_tag source (by decide), if_pos rfl, verbatim_brace, Except.ok_bind,
        List.reverse_cons, List.append_assoc]
      exact hread
    · rename_i hc
      rw [if_neg hc]
      simp only [List.length_cons] at hn
      obtain ⟨k, rfl⟩ : ∃ k, n = k + 1 := ⟨n - 1, by omega⟩
      obtain ⟨m, hm, hread⟩ := ih (n := k) (by omega) (c :: text)
      refine ⟨m, hm, ?_⟩
      rw [contentUpTo_unmarked source (unmarked_char hc _), List.reverse_cons, List.append_assoc]
      exact hread

/-! ## What is to be shown of contents and nodes -/

/-- The text of the content is read as that content, up to positions, with the names of its
    blocks added to the names before. -/
def ReadBack (content : Content) : Prop :=
  ∀ names rest, Ends rest → ((Content.blockNames content).reverse ++ names).Nodup →
    ∃ found, Content.unplaced found = Content.unplaced content ∧
      ∀ n, (Content.print extra content rest).length ≤ n →
        contentUpTo source n [] names (Content.print extra content rest) =
          .ok ⟨found, (Content.blockNames content).reverse ++ names, rest⟩

/-- The text of the node is read as that node, up to positions, and what follows is read on. -/
def NodeReadBack (node : Node) : Prop :=
  ∀ names rest, (node.blockNames.reverse ++ names).Nodup →
    ∃ found : Node, found.unplaced = node.unplaced ∧
      ∀ n text more, (node.print extra rest).length ≤ n + 1 →
        contentUpTo source n [] (node.blockNames.reverse ++ names) rest = .ok more →
          contentUpTo source (n + 1) text names (node.print extra rest) =
            .ok ⟨withText text (found :: more.found), more.names, more.rest⟩

/-! ## Statements -/

/-- A node whose text is a tag of a statement's word is read as a statement. -/
theorem nodeReadBack_of_statement {node : Node} (word : String)
    (hword : word ∈ ["block", "include", "for", "if", "set"])
    (htag : ∀ rest, ∃ inside, node.print extra rest = tag word inside)
    (h : ∀ names rest, (node.blockNames.reverse ++ names).Nodup →
      ∃ found : Node, found.unplaced = node.unplaced ∧
        ∀ n, (node.print extra rest).length ≤ n + 1 →
          statement source (contentUpTo source n []) names (node.print extra rest) =
            .ok ⟨found, node.blockNames.reverse ++ names, rest⟩) : NodeReadBack extra source node := by
  have hwords : ∀ w ∈ ["block", "include", "for", "if", "set"],
      isKeyword w = true ∧ w ≠ "verbatim" ∧ closingWords.contains w = false := by decide
  obtain ⟨hkey, hverbatim, hcloses⟩ := hwords word hword
  intro names rest hfresh
  obtain ⟨found, hsame, hread⟩ := h names rest hfresh
  refine ⟨found, hsame, fun n text more hn hmore => ?_⟩
  have hstatement := hread n hn
  obtain ⟨inside, htext⟩ := htag rest
  rw [htext] at hstatement ⊢
  rw [contentUpTo_tag source hkey, if_neg hverbatim, if_neg (by simp only [hcloses]; decide), hstatement,
    Except.ok_bind]
  simp only [hmore, Except.ok_bind]
  rfl

theorem nodeReadBack_output {e : Expr} (h : e.Printable) (position : Position) :
    NodeReadBack extra source (.output position e) := by
  intro names rest _
  have hread := output_written extra source h position rest
  refine ⟨.output (.before source ((Node.output position e).print extra rest)) e, rfl,
    fun n text more hn hmore => ?_⟩
  have hcons : (Node.output position e).print extra rest =
    '\x7b' :: '\x7b' :: ' ' :: (e.written extra .free ++ ' ' :: '\x7d' :: '\x7d' :: rest) := rfl
  have hmark : mark? "\x7b\x7b" ((Node.output position e).print extra rest) =
    some (' ' :: (e.written extra .free ++ ' ' :: '\x7d' :: '\x7d' :: rest)) := rfl
  have hmore : contentUpTo source n [] names rest = .ok more := hmore
  rw [hcons, contentUpTo, ← hcons]
  simp only [hmark, Option.isSome_some, if_true, hread, Except.ok_bind, hmore]
  rfl

theorem nodeReadBack_inclusion (position : Position) (name : String) :
    NodeReadBack extra source (.inclusion position name) := by
  refine nodeReadBack_of_statement extra source "include" (by decide) (fun rest => ⟨_, rfl⟩)
    fun names rest _ => ?_
  have hread := inclusion_written extra source position name rest
  have hword : tagWord? ((Node.inclusion position name).print extra rest) = some "include" :=
    tagWord?_tag (by decide) _
  refine ⟨.inclusion (.before source ((Node.inclusion position name).print extra rest)) name, rfl,
    fun n _ => ?_⟩
  rw [statement, hword]
  simp only [hread, Except.ok_bind]
  rfl

theorem nodeReadBack_assignment {name : String} {e : Expr} (hname : isName name = true) (h : e.Printable)
    (position : Position) : NodeReadBack extra source (.assignment position name e) := by
  refine nodeReadBack_of_statement extra source "set" (by decide) (fun rest => ⟨_, rfl⟩)
    fun names rest _ => ?_
  have hread := assignment_written extra source hname h position rest
  have hword : tagWord? ((Node.assignment position name e).print extra rest) = some "set" :=
    tagWord?_tag (by decide) _
  refine ⟨.assignment (.before source ((Node.assignment position name e).print extra rest)) name e, rfl,
    fun n _ => ?_⟩
  rw [statement, hword]
  simp only [hread, Except.ok_bind]
  rfl

theorem nodeReadBack_block {name : String} {content : Content} (hname : isName name = true)
    (hcontent : ReadBack extra source content) (position : Position) :
    NodeReadBack extra source (.block position name content) := by
  refine nodeReadBack_of_statement extra source "block" (by decide) (fun rest => ⟨_, rfl⟩)
    fun names rest hfresh => ?_
  have hnames : (Node.block position name content).blockNames.reverse ++ names =
      (Content.blockNames content).reverse ++ name :: names := by
    rw [Node.blockNames, List.reverse_cons, List.append_assoc]
    rfl
  rw [hnames] at hfresh ⊢
  have hnew : name ∉ names := (List.nodup_cons.mp (List.nodup_append.mp hfresh).2.1).1
  obtain ⟨found, hsame, hread⟩ := hcontent (name :: names) (tag "endblock" (tagEnd rest))
    (.closing _ (by decide)) hfresh
  have htext : (Node.block position name content).print extra rest = tag "block" (name.toList ++
    ' ' :: tagEnd (Content.print extra content (tag "endblock" (tagEnd rest)))) := rfl
  refine ⟨.block (.before source ((Node.block position name content).print extra rest)) name found, ?_,
    fun n hn => ?_⟩
  · rw [Node.unplaced, Node.unplaced, hsame]
  · rw [htext] at hn ⊢
    simp only [length_tag, length_tagEnd, List.length_append, List.length_cons] at hn
    have hblock := block_written source hname hnew (hread n (by omega))
    rw [statement, tagWord?_tag (by decide)]
    simp only [hblock, Except.ok_bind]
    rfl

theorem nodeReadBack_loop {target : Target} {collection : Expr} {filters : List Expr} {body : Content}
    (htarget : ∀ name ∈ target.names, isName name = true) (h : collection.Printable)
    (hfilters : ∀ f ∈ filters, f.Printable ∧ f.isStage = true) (hbody : ReadBack extra source body)
    (position : Position) : NodeReadBack extra source (.loop position target collection filters body) := by
  refine nodeReadBack_of_statement extra source "for" (by decide) (fun rest => ⟨_, rfl⟩)
    fun names rest hfresh => ?_
  obtain ⟨found, hsame, hread⟩ := hbody names (tag "endfor" (tagEnd rest)) (.closing _ (by decide)) hfresh
  refine ⟨.loop (.before source ((Node.loop position target collection filters body).print extra rest))
    target collection filters found, ?_, fun n hn => ?_⟩
  · rw [Node.unplaced, Node.unplaced, hsame]
  · have hlen := length_le_loop extra target collection filters
      (Content.print extra body (tag "endfor" (tagEnd rest)))
    simp only [Node.print, length_tag] at hn
    have hloop := loop_written extra source htarget h hfilters (hread n (by omega))
    have hword : tagWord? ((Node.loop position target collection filters body).print extra rest) =
      some "for" := tagWord?_tag (by decide) _
    rw [statement, hword]
    exact hloop

/-! ## Conditionals -/

/-- What stands behind the branches of a conditional. -/
def printOtherwise (otherwise : Option Content) (rest : List Char) : List Char :=
  match otherwise with
  | none => tag "endif" (tagEnd rest)
  | some content => tag "else" (tagEnd (Content.print extra content (tag "endif" (tagEnd rest))))

theorem print_conditional (position : Position) (branches : List (Expr × Content))
    (otherwise : Option Content) (rest : List Char) :
    (Node.conditional position branches otherwise).print extra rest =
      printBranches extra "if" branches (printOtherwise extra otherwise rest) := by
  cases otherwise <;> rfl

theorem ends_printOtherwise (otherwise : Option Content) (rest : List Char) :
    Ends (printOtherwise extra otherwise rest) ∧
      tagWord? (printOtherwise extra otherwise rest) ≠ some "elseif" := by
  cases otherwise with
  | none => exact ⟨.closing _ (by decide), by rw [printOtherwise, tagWord?_tag (by decide)]; decide⟩
  | some content => exact ⟨.closing _ (by decide), by rw [printOtherwise, tagWord?_tag (by decide)]; decide⟩

theorem ends_printBranches {rest : List Char} (h : Ends rest) (branches : List (Expr × Content)) :
    Ends (printBranches extra "elseif" branches rest) := by
  cases branches with
  | nil => exact h
  | cons b branches => exact .closing _ (by decide)

theorem otherwise_written {otherwise : Option Content} (h : ∀ content ∈ otherwise, ReadBack extra source content)
    (names : List String) (rest : List Char)
    (hfresh : ((Content.blockNamesOfOption otherwise).reverse ++ names).Nodup) :
    ∃ found : Option Content, found.map Content.unplaced = otherwise.map Content.unplaced ∧
      ∀ n start, (printOtherwise extra otherwise rest).length ≤ n + 1 →
        Grammar.otherwise (contentUpTo source n []) start names (printOtherwise extra otherwise rest) =
          .ok ⟨found, (Content.blockNamesOfOption otherwise).reverse ++ names, tag "endif" (tagEnd rest)⟩ := by
  cases otherwise with
  | none =>
    refine ⟨none, rfl, fun n start _ => ?_⟩
    rw [printOtherwise, Grammar.otherwise, tagWord?_tag (by decide), if_neg (by decide)]
    rfl
  | some content =>
    obtain ⟨found, hsame, hread⟩ := h content rfl names (tag "endif" (tagEnd rest)) (.closing _ (by decide)) hfresh
    refine ⟨some found, congrArg some hsame, fun n start hn => ?_⟩
    simp only [printOtherwise, length_tag, length_tagEnd] at hn
    rw [printOtherwise, Grammar.otherwise, tagWord?_tag (by decide), if_pos rfl,
      openTag_tag (by decide) (unspaced_tagEnd _)]
    simp only [Except.ok_bind, closeTag_tagEnd, hread n (by omega)]
    rfl

theorem furtherBranches_written {branches : List (Expr × Content)}
    (hconditions : ∀ b ∈ branches, b.1.Printable) (hbodies : ∀ b ∈ branches, ReadBack extra source b.2)
    {rest : List Char} (hrest : Ends rest) (hword : tagWord? rest ≠ some "elseif") (names : List String)
    (hfresh : ((Content.blockNamesOfBranches branches).reverse ++ names).Nodup) :
    ∃ found, unplacedBranches found = unplacedBranches branches ∧
      ∀ n m start, (printBranches extra "elseif" branches rest).length ≤ n → branches.length ≤ m →
        furtherBranches (contentUpTo source n []) start m names (printBranches extra "elseif" branches rest) =
          .ok ⟨found, (Content.blockNamesOfBranches branches).reverse ++ names, rest⟩ := by
  induction branches generalizing names with
  | nil =>
    refine ⟨[], rfl, fun n m start _ _ => ?_⟩
    rw [printBranches]
    cases m with
    | zero => rfl
    | succ m => rw [furtherBranches, if_neg hword]; rfl
  | cons b branches ih =>
    obtain ⟨condition, content⟩ := b
    have hnames : (Content.blockNamesOfBranches ((condition, content) :: branches)).reverse ++ names =
        (Content.blockNamesOfBranches branches).reverse ++ ((Content.blockNames content).reverse ++ names) := by
      rw [Content.blockNamesOfBranches, List.reverse_append, List.append_assoc]
    rw [hnames] at hfresh ⊢
    have hbody : ReadBack extra source content := hbodies _ (List.mem_cons_self ..)
    obtain ⟨found, hsame, hread⟩ := hbody names
      (printBranches extra "elseif" branches rest) (ends_printBranches extra hrest branches)
      (List.nodup_append.mp hfresh).2.1
    obtain ⟨more, hsame', hmore⟩ := ih (fun b hb => hconditions b (List.mem_cons_of_mem _ hb))
      (fun b hb => hbodies b (List.mem_cons_of_mem _ hb)) _ hfresh
    refine ⟨(condition, found) :: more, ?_, fun n m start hn hm => ?_⟩
    · rw [unplacedBranches, unplacedBranches, hsame, hsame']
    · cases m with
      | zero => exact absurd hm (Nat.not_succ_le_zero _)
      | succ m =>
        have hcondition := hconditions _ (List.mem_cons_self ..)
        have hopen := (Expr.readable_of_printable hcondition).begins_written extra .free
          (' ' :: tagEnd (Content.print extra content (printBranches extra "elseif" branches rest)))
        have hlen := length_le_content extra content (printBranches extra "elseif" branches rest)
        simp only [printBranches, length_tag, length_tagEnd, List.length_cons, List.length_append] at hn
        have hbranch := branch_written extra hcondition start (hread n (by omega))
        rw [printBranches, furtherBranches, tagWord?_tag (by decide), if_pos rfl,
          openTag_tag (by decide) hopen.unspaced]
        simp only [Except.ok_bind, hbranch, hmore n m start (by omega) (Nat.le_of_succ_le_succ hm)]
        rfl

theorem unplaced_conditional (position : Position) (branches : List (Expr × Content))
    (otherwise : Option Content) :
    (Node.conditional position branches otherwise).unplaced =
      .conditional (.after []) (unplacedBranches branches) (otherwise.map Content.unplaced) := by
  cases otherwise <;> rfl

theorem nodeReadBack_conditional {branches : List (Expr × Content)} {otherwise : Option Content}
    (hne : branches ≠ []) (hconditions : ∀ b ∈ branches, b.1.Printable)
    (hbodies : ∀ b ∈ branches, ReadBack extra source b.2)
    (hotherwise : ∀ content ∈ otherwise, ReadBack extra source content) (position : Position) :
    NodeReadBack extra source (.conditional position branches otherwise) := by
  obtain ⟨⟨condition, content⟩, others, rfl⟩ := List.exists_cons_of_ne_nil hne
  refine nodeReadBack_of_statement extra source "if" (by decide)
    (fun rest => ⟨_, print_conditional extra position _ otherwise rest⟩) fun names rest hfresh => ?_
  rw [print_conditional, printBranches]
  have hnames : (Node.conditional position ((condition, content) :: others) otherwise).blockNames.reverse ++
      names = (Content.blockNamesOfOption otherwise).reverse ++ ((Content.blockNamesOfBranches others).reverse ++
        ((Content.blockNames content).reverse ++ names)) := by
    simp only [Node.blockNames, Content.blockNamesOfBranches, List.reverse_append, List.append_assoc]
  rw [hnames] at hfresh ⊢
  have hfresh' := (List.nodup_append.mp hfresh).2.1
  have hbody : ReadBack extra source content := hbodies _ (List.mem_cons_self ..)
  have hcondition : condition.Printable := hconditions _ (List.mem_cons_self ..)
  obtain ⟨hends, hword⟩ := ends_printOtherwise extra otherwise rest
  generalize hlast : printOtherwise extra otherwise rest = last at hends hword
  obtain ⟨first, hfirst, hreadFirst⟩ := hbody names (printBranches extra "elseif" others last)
    (ends_printBranches extra hends others) (List.nodup_append.mp hfresh').2.1
  obtain ⟨more, hmore, hreadMore⟩ := furtherBranches_written extra source
    (fun b hb => hconditions b (List.mem_cons_of_mem _ hb))
    (fun b hb => hbodies b (List.mem_cons_of_mem _ hb)) hends hword _ hfresh'
  obtain ⟨found, hfound, hreadLast⟩ := otherwise_written extra source hotherwise _ rest hfresh
  rw [hlast] at hreadLast
  generalize hs : tag "if" (condition.written extra .free ++ ' ' :: tagEnd (Content.print extra content
    (printBranches extra "elseif" others last))) = s
  refine ⟨.conditional (.before source s) ((condition, first) :: more) found, ?_, fun n hn => ?_⟩
  · rw [unplaced_conditional, unplaced_conditional, unplacedBranches, unplacedBranches, hfirst, hmore, hfound]
  · have hlenMore := length_le_content extra content (printBranches extra "elseif" others last)
    have hlenLast := length_le_printBranches extra others "elseif" last
    have hmany := Nat.le_trans (Nat.le_add_right ..) hlenLast
    have hword : tagWord? s = some "if" := hs ▸ tagWord?_tag (by decide) _
    rw [← hs] at hn
    simp only [length_tag, length_tagEnd, List.length_cons, List.length_append] at hn
    rw [statement, hword, ← hs]
    exact conditional_written extra source hcondition (hreadFirst n (by omega))
      (fun start => hreadMore n _ start (by omega) hmany) fun start => hreadLast n start (by omega)

/-! ## Contents -/

theorem withText_reverse {s : String} (h : s ≠ "") (content : Content) :
    withText s.toList.reverse content = .text s :: content := by
  have hsome : s.toList.reverse.isEmpty = false := by simpa using h
  rw [withText, hsome, List.reverse_reverse, String.ofList_toList]
  rfl

/-- The nodes of a content are read one after the other, behind `text`, which is kept in
    reverse and stands in front of a node other than text. -/
theorem contentUpTo_nodes {content : Content}
    (hapart : content.IsChain fun a b => a.isText = true → b.isText = false)
    (hnodes : ∀ node ∈ content, node.Printable)
    (hread : ∀ node ∈ content, node.isText = false → NodeReadBack extra source node)
    {rest : List Char} (hrest : Ends rest) (text : List Char)
    (htext : text ≠ [] → ∀ node ∈ content.head?, node.isText = false) (names : List String)
    (hfresh : ((Content.blockNames content).reverse ++ names).Nodup) :
    ∃ found, Content.unplaced found = Content.unplaced content ∧
      ∀ n, (Content.print extra content rest).length ≤ n →
        contentUpTo source n text names (Content.print extra content rest) =
          .ok ⟨withText text found, (Content.blockNames content).reverse ++ names, rest⟩ := by
  induction content generalizing text names with
  | nil => exact ⟨[], rfl, fun n hn => contentUpTo_ends source hrest hn text names⟩
  | cons node nodes ih =>
    have hnames : (Content.blockNames (node :: nodes)).reverse ++ names =
        (Content.blockNames nodes).reverse ++ (node.blockNames.reverse ++ names) := by
      rw [Content.blockNames, List.reverse_append, List.append_assoc]
    rw [hnames] at hfresh ⊢
    obtain ⟨hhead, htail⟩ := List.isChain_cons.mp hapart
    have hih := ih htail (fun node h => hnodes node (List.mem_cons_of_mem _ h))
      (fun node h => hread node (List.mem_cons_of_mem _ h))
    cases hnode : node.isText with
    | true =>
      cases node with
      | text s =>
        have hs : s ≠ "" := hnodes _ (List.mem_cons_self ..)
        obtain rfl : text = [] := Decidable.byContradiction fun hne => Bool.noConfusion (htext hne _ rfl)
        obtain ⟨found, hsame, hnext⟩ := hih s.toList.reverse (fun _ node h => hhead node h rfl) names hfresh
        refine ⟨.text s :: found, ?_, fun n hn => ?_⟩
        · rw [Content.unplaced, Content.unplaced, hsame]
        · obtain ⟨m, hm, hkept⟩ := contentUpTo_text source s.toList hn [] names
          rw [List.append_nil] at hkept
          show contentUpTo source n [] names (printText s.toList (Content.print extra nodes rest)) = _
          rw [hkept, hnext m hm, withText_reverse hs]
          rfl
      | _ => cases hnode
    | false =>
      obtain ⟨first, hfirst, hreadFirst⟩ := hread node (List.mem_cons_self ..) hnode names
        (Content.print extra nodes rest) (List.nodup_append.mp hfresh).2.1
      obtain ⟨found, hsame, hnext⟩ := hih [] (fun h => absurd rfl h) _ hfresh
      refine ⟨first :: found, ?_, fun n hn => ?_⟩
      · rw [Content.unplaced, Content.unplaced, hfirst, hsame]
      · have hlen := length_lt_node extra node (Content.print extra nodes rest) hnode
        rw [Content.print] at hn ⊢
        obtain ⟨k, rfl⟩ : ∃ k, n = k + 1 := ⟨n - 1, by omega⟩
        exact hreadFirst k text _ hn (hnext k (by omega))

theorem readBack_of_nodes {content : Content}
    (hapart : content.IsChain fun a b => a.isText = true → b.isText = false)
    (hnodes : ∀ node ∈ content, node.Printable)
    (hread : ∀ node ∈ content, node.isText = false → NodeReadBack extra source node) :
    ReadBack extra source content := by
  intro names rest hrest hfresh
  exact contentUpTo_nodes extra source hapart hnodes hread hrest [] (fun h => absurd rfl h) names hfresh

/-- A node is read back if the contents inside it are. -/
theorem nodeReadBack_of_parts {node : Node} (hnode : node.Printable) (htext : node.isText = false)
    (hparts : ∀ part ∈ node.contents, ReadBack extra source part) : NodeReadBack extra source node := by
  cases node with
  | text => cases htext
  | output position e => exact nodeReadBack_output extra source hnode position
  | block position name content =>
    exact nodeReadBack_block extra source hnode (hparts content (List.mem_singleton.mpr rfl)) position
  | inclusion position name => exact nodeReadBack_inclusion extra source position name
  | conditional position branches otherwise =>
    obtain ⟨hne, hconditions⟩ := hnode
    refine nodeReadBack_conditional extra source hne hconditions (fun b hb => ?_) (fun content hc => ?_) position
    · exact hparts b.2 (List.mem_append_left _ (List.mem_map_of_mem hb))
    · exact hparts content (List.mem_append_right _ (Option.mem_toList.mpr hc))
  | loop position target collection filters body =>
    obtain ⟨htarget, hcollection, hfilters⟩ := hnode
    exact nodeReadBack_loop extra source htarget hcollection hfilters
      (hparts body (List.mem_singleton.mpr rfl)) position
  | assignment position name e =>
    obtain ⟨hname, he⟩ := hnode
    exact nodeReadBack_assignment extra source hname he position

theorem readBack_of_printable {content : Content} (h : Content.Printable content) :
    ReadBack extra source content := by
  induction h with
  | intro hapart hnodes _ ih =>
    refine readBack_of_nodes extra source hapart hnodes fun node hnode htext => ?_
    exact nodeReadBack_of_parts extra source (hnodes node hnode) htext (ih node hnode)

end TemplateEngine.Grammar
