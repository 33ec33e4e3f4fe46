/-
  TemplateEngine.Proofs.Document.RoundTrip — printed documents read back.

  A document is told to have a parent by its first tag, which no text of a content starts
  with, behind blanks and all. A document without a parent is read as its content; one with
  a parent is read block by block, each block behind the names of those before it.

  Proved:
  - `tagWord?_printContent`: a printed content does not name a parent.
  - `parse_print_document`: all printable documents are read back.
-/

import TemplateEngine.Proofs.Document.Content

namespace TemplateEngine

open TemplateEngine.Expr (Place)

namespace Grammar

open Scan TemplateEngine.Except

variable (extra : Place → Expr → Bool)

/-! ## Where no parent is named -/

theorem tagWord?_printText (cs : List Char) {rest : List Char}
    (h : tagWord? (skipSpacing rest) ≠ some "extends") :
    tagWord? (skipSpacing (printText cs rest)) ≠ some "extends" := by
  induction cs with
  | nil => exact h
  | cons c cs ih =>
    rw [printText]
    split
    · rw [skipSpacing_tag, tagWord?_tag (by decide)]
      decide
    · rename_i hc
      cases hspace : isSpace c with
      | true =>
        rw [skipSpacing_space hspace]
        exact ih
      | false =>
        have hmark : mark? "\x7b%" (c :: printText cs rest) = none :=
          mark?_of_stops (Stops.cons (p := (· == '\x7b')) (by simpa using hc)) rfl
        rw [skipSpacing_of_unspaced (.cons _ hspace hc), tagWord?, hmark]
        exact (Option.some_ne_none _).symm

theorem tagWord?_printNode {node : Node} (h : node.Printable) (htext : node.isText = false)
    (rest : List Char) : tagWord? (skipSpacing (node.print extra rest)) ≠ some "extends" := by
  have htag {word : String} (hkey : isKeyword word = true) (hword : word ≠ "extends")
      (inside : List Char) : tagWord? (skipSpacing (tag word inside)) ≠ some "extends" := by
    rw [skipSpacing_tag, tagWord?_tag hkey]
    exact fun heq => hword (Option.some.inj heq)
  cases node with
  | text => cases htext
  | output position e =>
    have hunspaced : Unspaced ((Node.output position e).print extra rest) :=
      ⟨fun _ hc => Option.some.inj hc ▸ rfl, rfl⟩
    rw [skipSpacing_of_unspaced hunspaced]
    nofun
  | conditional position branches otherwise =>
    obtain ⟨b, others, rfl⟩ := List.exists_cons_of_ne_nil h.1
    rw [print_conditional]
    exact htag (by decide) (by decide) _
  | _ => exact htag (by decide) (by decide) _

theorem tagWord?_printContent {content : Content} (h : ∀ node ∈ content, node.Printable) :
    tagWord? (skipSpacing (Content.print extra content [])) ≠ some "extends" := by
  induction content with
  | nil => nofun
  | cons node nodes ih =>
    have hnodes := ih fun node hn => h node (List.mem_cons_of_mem _ hn)
    cases hnode : node.isText with
    | true =>
      cases node with
      | text s => exact tagWord?_printText s.toList hnodes
      | _ => cases hnode
    | false => exact tagWord?_printNode extra (h node (List.mem_cons_self ..)) hnode _

/-! ## Documents -/

theorem nodup_reverse_append_nil {names : List String} (h : names.Nodup) : (names.reverse ++ []).Nodup := by
  rw [List.append_nil]
  exact (List.reverse_perm names).nodup_iff.mpr h

theorem document_root {content : Content} (h : Content.Printable content)
    (hunique : (Content.blockNames content).Nodup) :
    ∃ found, Content.unplaced found = Content.unplaced content ∧
      document (Content.print extra content []) = .ok (.root found) := by
  generalize hsource : Content.print extra content [] = source
  obtain ⟨found, hsame, hread⟩ := readBack_of_printable extra source h [] [] .source
    (nodup_reverse_append_nil hunique)
  rw [hsource] at hread
  have hcontent : Grammar.content source [] source = .ok _ := hread source.length (Nat.le_refl _)
  have hparent : tagWord? (skipSpacing source) ≠ some "extends" := by
    cases h with
    | intro _ hnodes _ => exact hsource ▸ tagWord?_printContent extra hnodes
  refine ⟨found, hsame, ?_⟩
  simp only [document, if_neg hparent, root, hcontent, Except.ok_bind]
  rfl

theorem length_le_overrides (overrides : List Override) :
    overrides.length ≤ (overrides.foldr (Override.print extra) []).length := by
  induction overrides with
  | nil => exact Nat.le_refl _
  | cons o overrides ih =>
    have hlen := length_lt_node extra (.block o.position o.name o.content)
      (overrides.foldr (Override.print extra) []) rfl
    rw [List.foldr_cons, Override.print, List.length_cons]
    omega

/-- The blocks of a source with a parent, one after the other. -/
theorem overrides_written (source : List Char) {overrides : List Override}
    (h : ∀ o ∈ overrides, isName o.name = true ∧ Content.Printable o.content) (names : List String)
    (hfresh : ((overrides.flatMap overrideNames).reverse ++ names).Nodup) :
    ∃ found, found.map Override.unplaced = overrides.map Override.unplaced ∧
      ∀ n, overrides.length ≤ n →
        Grammar.overrides source n names (overrides.foldr (Override.print extra) []) = .ok found := by
  induction overrides generalizing names with
  | nil => exact ⟨[], rfl, fun n _ => by cases n <;> rfl⟩
  | cons o overrides ih =>
    obtain ⟨hname, hcontent⟩ := h o (List.mem_cons_self ..)
    have hnames : ((o :: overrides).flatMap overrideNames).reverse ++ names =
        (overrides.flatMap overrideNames).reverse ++ ((Content.blockNames o.content).reverse ++ o.name :: names) := by
      simp [overrideNames]
    rw [hnames] at hfresh
    have hfresh' := (List.nodup_append.mp hfresh).2.1
    have hnew : o.name ∉ names := (List.nodup_cons.mp (List.nodup_append.mp hfresh').2.1).1
    generalize hrest : overrides.foldr (Override.print extra) [] = rest at ih
    obtain ⟨body, hbody, hread⟩ := readBack_of_printable extra source hcontent (o.name :: names)
      (tag "endblock" (tagEnd rest)) (.closing _ (by decide)) hfresh'
    obtain ⟨more, hmore, hreadMore⟩ := ih (fun o ho => h o (List.mem_cons_of_mem _ ho)) _ hfresh
    have hcontent : Grammar.content source (o.name :: names) _ = .ok _ := hread _ (Nat.le_refl _)
    have hblock := block_written source hname hnew hcontent
    refine ⟨⟨.before source (o.print extra rest), o.name, body⟩ :: more, ?_, fun n hn => ?_⟩
    · rw [List.map_cons, List.map_cons, hmore, Override.unplaced, Override.unplaced, hbody]
    · cases n with
      | zero => exact absurd hn (Nat.not_succ_le_zero _)
      | succ n =>
        have htext : o.print extra rest = tag "block" (o.name.toList ++ ' ' :: tagEnd
          (Content.print extra o.content (tag "endblock" (tagEnd rest)))) := rfl
        rw [List.foldr_cons, hrest, htext, Grammar.overrides]
        simp only [skipSpacing_tag, tagWord?_tag (by decide : isKeyword "block" = true), hblock,
          hreadMore n (Nat.le_of_succ_le_succ hn), Except.ok_bind]
        rfl

theorem document_extending (position : Position) (parent : String) {overrides : List Override}
    (h : ∀ o ∈ overrides, isName o.name = true ∧ Content.Printable o.content)
    (hunique : (overrides.flatMap overrideNames).Nodup) :
    ∃ position' found, found.map Override.unplaced = overrides.map Override.unplaced ∧
      document (Document.print extra (.extending position parent overrides)).toList =
        .ok (.extending position' parent found) := by
  rw [Document.print, String.toList_ofList]
  generalize hrest : overrides.foldr (Override.print extra) [] = rest
  generalize hsource : tag "extends" (quoted '"' parent ++ ' ' :: tagEnd rest) = source
  obtain ⟨found, hsame, hread⟩ := overrides_written extra source h [] (nodup_reverse_append_nil hunique)
  have hlen := length_le_overrides extra overrides
  rw [hrest] at hread hlen
  have hstart : skipSpacing source = source := hsource ▸ skipSpacing_tag _ _
  have hword : tagWord? source = some "extends" := hsource ▸ tagWord?_tag (by decide) _
  have hopen : openTag "extends" source = .ok _ :=
    hsource ▸ openTag_tag (by decide) (unspaced_quoted parent _)
  refine ⟨.before source source, found, hsame, ?_⟩
  simp only [document, hstart, if_pos hword, extending, hopen, templateName_quoted, closeTag_space,
    hread (rest.length + 1) (by omega), Except.ok_bind]
  rfl

end Grammar

/-- A printable document, written with whichever parentheses, is read as that document, up to
    positions. -/
theorem parse_print_document {d : Document} (h : d.Printable) (extra : Place → Expr → Bool) :
    ∃ found, Document.parse (d.print extra) = .ok found ∧ found.unplaced = d.unplaced := by
  cases d with
  | root content =>
    obtain ⟨found, hsame, hread⟩ := Grammar.document_root extra h.1 h.2
    refine ⟨.root found, ?_, by rw [Document.unplaced, Document.unplaced, hsame]⟩
    rw [Document.parse, Document.print, String.toList_ofList, hread]
    rfl
  | extending position parent overrides =>
    obtain ⟨position', found, hsame, hread⟩ := Grammar.document_extending extra position parent h.1 h.2
    refine ⟨.extending position' parent found, ?_, by rw [Document.unplaced, Document.unplaced, hsame]⟩
    rw [Document.parse, hread]
    rfl

set_option maxRecDepth 2000 in
/-- The last stage of the collection is no filter, and the first brace opens no tag. -/
theorem parse_filtered_loop : ∃ d : Document, d.Printable ∧
    d.print (fun _ _ => false) = "\x7b% extends \"base\" %\x7d\x7b% block main %\x7d" ++
      "a\x7b% verbatim %\x7d\x7b\x7b% endverbatim %\x7d" ++
      "\x7b% for k, v in m | sort | filter first %\x7d\x7b\x7b v \x7d\x7d\x7b% endfor %\x7d\x7b% endblock %\x7d" ∧
    ∃ found, Document.parse (d.print fun _ _ => false) = .ok found ∧ found.unplaced = d.unplaced := by
  have hvar {name : String} (h : Scan.isName name = true) : (Expr.var name).Printable := .var h
  have hbody : Content.Printable [.output ⟨0, 1, 1⟩ (.var "v")] :=
    .intro (List.isChain_singleton _) (List.forall_mem_singleton.mpr (hvar (by decide)))
      (List.forall_mem_singleton.mpr nofun)
  have hcollection : (Expr.pipe (.var "m") [.var "sort"]).Printable :=
    .pipe (hvar (by decide)) (by decide) (List.forall_mem_singleton.mpr (hvar (by decide)))
      (List.forall_mem_singleton.mpr rfl)
  have hloop : (Node.loop ⟨0, 1, 1⟩ (.pair "k" "v") (.pipe (.var "m") [.var "sort"]) [.var "first"]
      [.output ⟨0, 1, 1⟩ (.var "v")]).Printable :=
    ⟨by decide, hcollection, List.forall_mem_singleton.mpr ⟨hvar (by decide), rfl⟩⟩
  have hcontent : Content.Printable [.text "a\x7b", _] :=
    .intro (List.isChain_pair.mpr fun _ => rfl)
      (List.forall_mem_cons.mpr ⟨by simp [Node.Printable], List.forall_mem_singleton.mpr hloop⟩)
      (List.forall_mem_cons.mpr ⟨nofun, List.forall_mem_singleton.mpr (List.forall_mem_singleton.mpr hbody)⟩)
  have hdocument : (Document.extending ⟨0, 1, 1⟩ "base" [⟨⟨0, 1, 1⟩, "main", _⟩]).Printable :=
    ⟨List.forall_mem_singleton.mpr ⟨by decide, hcontent⟩, by decide⟩
  exact ⟨_, hdocument, by rfl, parse_print_document hdocument _⟩

end TemplateEngine
