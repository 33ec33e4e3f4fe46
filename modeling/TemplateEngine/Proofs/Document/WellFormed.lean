/-
  TemplateEngine.Proofs.Document.WellFormed — the shapes that parsed documents have.

  A rule for statements reads well-formed nodes if the rule for content does (`Shapes`), and
  so the rule for content does. Texts are never next to each other because text is kept
  back until a node follows.

  Proved:
  - `block_shapes`, `loop_shapes`, `conditional_shapes`, `statement_shapes`,
    `contentUpTo_shapes`: what each rule reads is well formed.
  - `wellFormed_of_parse`: whatever is parsed, as a document or as an expression, is well
    formed, and evaluating its expressions asks for no answer to trees of no shape.
-/

import TemplateEngine.Proofs.Evaluation.Fallbacks
import TemplateEngine.Proofs.Grammar.StatementYield

namespace TemplateEngine

/-- What holds of a node itself, without the contents inside it. -/
def Node.WellFormed : Node → Prop
  | .text s => s ≠ ""
  | .output _ e => e.WellFormed
  | .block _ name _ => Scan.isName name = true
  | .inclusion _ _ => True
  | .conditional _ branches _ => branches ≠ [] ∧ ∀ b ∈ branches, b.1.WellFormed
  | .loop _ target collection filters _ =>
    (∀ name ∈ target.names, Scan.isName name = true) ∧ collection.WellFormed ∧
      ∀ f ∈ filters, f.WellFormed ∧ f.isStage = true
  | .assignment _ name e => Scan.isName name = true ∧ e.WellFormed

/-- No text is empty or next to another text, at any depth. -/
inductive Content.WellFormed : Content → Prop
  | intro {content : Content} : content.IsChain (fun a b => a.isText = true → b.isText = false) →
      (∀ node ∈ content, node.WellFormed) →
        (∀ node ∈ content, ∀ part ∈ node.contents, Content.WellFormed part) → Content.WellFormed content

/-- No two blocks have the same name, at any depth. -/
def Document.WellFormed : Document → Prop
  | .root content => Content.WellFormed content ∧ (Content.blockNames content).Nodup
  | .extending _ _ overrides =>
    (∀ o ∈ overrides, Scan.isName o.name = true ∧ Content.WellFormed o.content) ∧
      (overrides.flatMap Grammar.overrideNames).Nodup

/-! ## The expressions of a document -/

/-- The contents that are no part of another. -/
def Document.contents : Document → List Content
  | .root content => [content]
  | .extending _ _ overrides => overrides.map (·.content)

/-- The expressions that are evaluated at a node, other than filters. -/
def Node.expressions : Node → List Expr
  | .output _ e => [e]
  | .conditional _ branches _ => branches.map (·.1)
  | .loop _ _ collection _ _ => [collection]
  | .assignment _ _ e => [e]
  | _ => []

def Node.filters : Node → List Expr
  | .loop _ _ _ filters _ => filters
  | _ => []

theorem Node.WellFormed.expressions {node : Node} (h : node.WellFormed) :
    ∀ e ∈ node.expressions, e.WellFormed := by
  intro e he
  cases node with
  | output position other => exact List.mem_singleton.mp he ▸ h
  | conditional position branches otherwise =>
    obtain ⟨b, hb, rfl⟩ := List.mem_map.mp he
    exact h.2 b hb
  | loop position target collection filters body => exact List.mem_singleton.mp he ▸ h.2.1
  | assignment position name other => exact List.mem_singleton.mp he ▸ h.2
  | _ => cases he

theorem Node.WellFormed.filters {node : Node} (h : node.WellFormed) :
    ∀ f ∈ node.filters, f.WellFormed ∧ f.isStage = true := by
  cases node with
  | loop position target collection filters body => exact h.2.2
  | _ => exact nofun

theorem Content.WellFormed.of_occurs {node : Node} {content : Content} (h : Content.WellFormed content)
    (hnode : Occurs node content) : node.WellFormed := by
  induction hnode with
  | here hmem =>
    cases h with
    | intro _ hnodes _ => exact hnodes node hmem
  | inside haround hpart _ ih =>
    cases h with
    | intro _ _ hparts => exact ih (hparts _ haround _ hpart)

namespace Grammar

open Scan TemplateEngine.Except

/-! ## What the rules read -/

/-- A node and the contents inside it. -/
def Shaped (node : Node) : Prop :=
  node.isText = false ∧ node.WellFormed ∧ ∀ part ∈ node.contents, Content.WellFormed part

theorem wellFormed_nil : Content.WellFormed [] := .intro .nil nofun nofun

theorem wellFormed_cons {node : Node} {content : Content} (hnode : Shaped node)
    (h : Content.WellFormed content) : Content.WellFormed (node :: content) := by
  cases h with
  | intro hapart hnodes hparts =>
    refine .intro ?_ (List.forall_mem_cons.mpr ⟨hnode.2.1, hnodes⟩) (List.forall_mem_cons.mpr ⟨hnode.2.2, hparts⟩)
    exact List.isChain_cons.mpr ⟨fun _ _ htext => absurd htext (by simp [hnode.1]), hapart⟩

/-- Text ahead of what is no text. -/
theorem wellFormed_withText {content : Content} (h : Content.WellFormed content)
    (hhead : ∀ node ∈ content.head?, node.isText = false) (text : List Char) :
    Content.WellFormed (withText text content) := by
  unfold withText
  split
  · exact h
  · rename_i hsome
    cases h with
    | intro hapart hnodes hparts =>
      refine .intro (List.isChain_cons.mpr ⟨fun node hnode _ => hhead node hnode, hapart⟩)
        (List.forall_mem_cons.mpr ⟨?_, hnodes⟩) (List.forall_mem_cons.mpr ⟨nofun, hparts⟩)
      intro hempty
      have := congrArg String.toList hempty
      simp_all

/-- What the rule reads is good. -/
def Shapes {α : Type} (good : α → Prop) (rule : Statement α) : Prop :=
  ∀ names s read, rule names s = .ok read → good read.found

section Rules

variable {source : List Char} {content : Statement Content} (hc : Shapes Content.WellFormed content)
include hc

theorem block_shapes :
    Shapes (fun o : Override => isName o.name = true ∧ Content.WellFormed o.content) (block source content) := by
  intro names s read h
  obtain ⟨name, r, body, rest, -, hname, -, -, hbody, -, rfl⟩ := block_yields h
  exact ⟨hname, hc _ _ _ hbody⟩

theorem loop_shapes : Shapes Shaped (loop source content) := by
  intro names s read h
  obtain ⟨target, collection, filters, r, body, rest, -, hnames, hcollection, hfilters, -, hbody, -, rfl⟩ :=
    loop_yields h
  exact ⟨rfl, ⟨hnames, hcollection, hfilters⟩, List.forall_mem_singleton.mpr (hc _ _ _ hbody)⟩

theorem branch_shapes (start : List Char) :
    Shapes (fun b : Expr × Content => b.1.WellFormed ∧ Content.WellFormed b.2) (branch content start) := by
  intro names s read h
  obtain ⟨condition, r, body, hcondition, -, hbody, rfl⟩ := branch_yields h
  exact ⟨hcondition, hc _ _ _ hbody⟩

theorem furtherBranches_shapes (start : List Char) (n : Nat) :
    Shapes (fun branches : List (Expr × Content) => ∀ b ∈ branches, b.1.WellFormed ∧ Content.WellFormed b.2)
      (furtherBranches content start n) := by
  induction n with
  | zero => intro names s read h; cases h; exact nofun
  | succ n ih =>
    intro names s read h
    rcases furtherBranches_yields h with rfl | ⟨r, first, more, -, hfirst, hmore, rfl⟩
    · exact nofun
    · exact List.forall_mem_cons.mpr ⟨branch_shapes hc start _ _ _ hfirst, ih _ _ _ hmore⟩

theorem otherwise_shapes (start : List Char) :
    Shapes (fun last : Option Content => ∀ content ∈ last, Content.WellFormed content)
      (otherwise content start) := by
  intro names s read h
  rcases otherwise_yields h with rfl | ⟨r, body, -, hbody, rfl⟩
  · exact nofun
  · intro content hcontent
    exact Option.some.inj hcontent ▸ hc _ _ _ hbody

theorem conditional_shapes : Shapes Shaped (conditional source content) := by
  intro names s read h
  obtain ⟨r, first, more, last, rest, -, -, hfirst, hmore, hlast, -, rfl⟩ := conditional_yields h
  have hbranches : ∀ b ∈ first.found :: more.found, b.1.WellFormed ∧ Content.WellFormed b.2 :=
    List.forall_mem_cons.mpr ⟨branch_shapes hc _ _ _ _ hfirst, furtherBranches_shapes hc _ _ _ _ _ hmore⟩
  refine ⟨rfl, ⟨List.cons_ne_nil _ _, fun b hb => (hbranches b hb).1⟩, fun part hpart => ?_⟩
  rcases List.mem_append.mp hpart with hpart | hpart
  · obtain ⟨b, hb, rfl⟩ := List.mem_map.mp hpart
    exact (hbranches b hb).2
  · exact otherwise_shapes hc _ _ _ _ hlast part (Option.mem_toList.mp hpart)

theorem statement_shapes : Shapes Shaped (statement source content) := by
  intro names s read h
  rcases statement_eq_ok_iff.mp h with
    ⟨-, o, ho, rfl⟩ | ⟨-, node, rest, hnode, rfl⟩ | ⟨-, h⟩ | ⟨-, h⟩ | ⟨-, node, rest, hnode, rfl⟩
  · obtain ⟨hname, hbody⟩ := block_shapes hc _ _ _ ho
    exact ⟨rfl, hname, List.forall_mem_singleton.mpr hbody⟩
  · obtain ⟨name, -, -, rfl⟩ := inclusion_yields hnode
    exact ⟨rfl, trivial, nofun⟩
  · exact loop_shapes hc _ _ _ h
  · exact conditional_shapes hc _ _ _ h
  · obtain ⟨name, e, -, hname, he, -, rfl⟩ := assignment_yields hnode
    exact ⟨rfl, ⟨hname, he⟩, nofun⟩

end Rules

/-! ## Content and documents -/

theorem wellFormed_node {node : Node} {more : Content} (hnode : Shaped node) (hmore : Content.WellFormed more)
    (text : List Char) : Content.WellFormed (withText text (node :: more)) :=
  wellFormed_withText (wellFormed_cons hnode hmore) (fun _ h => Option.some.inj h ▸ hnode.1) text

theorem contentUpTo_shapes (source : List Char) :
    ∀ n text, Shapes Content.WellFormed (contentUpTo source n text) := by
  intro n
  induction n with
  | zero => intro text names s read h; cases h; exact wellFormed_withText wellFormed_nil nofun text
  | succ n ih =>
    intro text names s read h
    cases (contentUpTo_succ_iff source).mp h with
    | source => exact wellFormed_withText wellFormed_nil nofun text
    | closing => exact wellFormed_withText wellFormed_nil nofun text
    | output hmark hnode hmore =>
      obtain ⟨e, he, -, -, rfl⟩ := output_yields hmark hnode
      have hnode : Shaped (.output (Position.before source s) e) := ⟨rfl, he, nofun⟩
      exact wellFormed_node hnode (ih _ _ _ _ hmore) text
    | statement hnode hmore => exact wellFormed_node (statement_shapes (ih []) _ _ _ hnode) (ih _ _ _ _ hmore) text
    | verbatim _ _ hread => exact ih _ _ _ _ hread
    | comment _ hread => exact ih _ _ _ _ hread
    | char _ hread => exact ih _ _ _ _ hread

theorem content_shapes (source : List Char) : Shapes Content.WellFormed (content source) :=
  fun names s => contentUpTo_shapes source s.length [] names s

theorem overrides_shapes (source : List Char) {n : Nat} {names : List String} {s : List Char}
    {found : List Override} (h : overrides source n names s = .ok found) :
    ∀ o ∈ found, isName o.name = true ∧ Content.WellFormed o.content := by
  induction n generalizing names s found with
  | zero => cases h; exact nofun
  | succ n ih =>
    rcases (overrides_succ_iff source).mp h with ⟨-, rfl⟩ | ⟨-, first, more, hfirst, hmore, rfl⟩
    · exact nofun
    · exact List.forall_mem_cons.mpr ⟨block_shapes (content_shapes source) _ _ _ hfirst, ih hmore⟩

theorem document_shapes {source : List Char} {document : Document}
    (h : Grammar.document source = .ok document) : document.WellFormed := by
  rcases (document_eq_ok_iff source).mp h with
    ⟨-, r, parent, r', r'', found, -, -, -, hfound, rfl⟩ | ⟨-, read, hread, -, rfl⟩
  · have hunique := nodup_names_of_overrides source _ _ _ _ hfound .nil
    rw [List.append_nil] at hunique
    exact ⟨overrides_shapes source hfound, hunique⟩
  · obtain ⟨hadded, hunique⟩ := content_tracks source _ _ _ hread
    rw [List.append_nil] at hadded
    exact ⟨content_shapes source _ _ _ hread, hadded.nodup_iff.mp (hunique .nil)⟩

end Grammar

theorem Document.WellFormed.of_contents {d : Document} (h : d.WellFormed) :
    ∀ content ∈ d.contents, Content.WellFormed content := by
  cases d with
  | root content => exact List.forall_mem_singleton.mpr h.1
  | extending position parent overrides => exact List.forall_mem_map.mpr fun o ho => (h.1 o ho).2

/-- Whatever is parsed is well formed, and the answers to trees of no shape make no
    difference to the values of its expressions and to what its filters do. -/
theorem wellFormed_of_parse (source : String) :
    (∀ document, Document.parse source = .ok document → document.WellFormed ∧
      ∀ content ∈ document.contents, ∀ node, Occurs node content →
        ∀ (arms : Arms) (env : Environment) (scope : Scope),
          (∀ e ∈ node.expressions, env.evaluateWith arms scope e = env.evaluate scope e) ∧
            ∀ v, env.passThroughWith arms scope v node.filters = env.passThrough scope v node.filters) ∧
      ∀ e, Expr.parse source = .ok e → e.WellFormed ∧
        ∀ (arms : Arms) (env : Environment) (scope : Scope),
          env.evaluateWith arms scope e = env.evaluate scope e := by
  refine ⟨fun document h => ?_, fun e h => ?_⟩
  · have hshape := Grammar.document_shapes (Document.parse_eq_ok_iff.mp h)
    refine ⟨hshape, fun content hcontent node hnode arms env scope => ?_⟩
    have hwell := (hshape.of_contents content hcontent).of_occurs hnode
    exact ⟨fun e he => env.evaluateWith_of_wellFormed arms scope (hwell.expressions e he),
      env.passThroughWith_of_wellFormed arms scope hwell.filters⟩
  · have hshape : e.WellFormed := (Grammar.expression_yields _ _ _ (Expr.parse_eq_ok_iff.mp h)).1
    exact ⟨hshape, fun arms env scope => env.evaluateWith_of_wellFormed arms scope hshape⟩

set_option maxRecDepth 2000 in
/-- A block's output with a step and a stage, and a chain whose last operand is a chain. -/
theorem wellFormed_of_block :
    (∃ d, Document.parse "\x7b% block b %\x7d\x7b\x7b v.k | f \x7d\x7d\x7b% endblock %\x7d" = .ok d ∧
      d.WellFormed ∧ ∃ node, d.contents = [[.block ⟨0, 1, 1⟩ "b" [node]]] ∧
        node.expressions = [.pipe (.select (.var "v") [.var "k"]) [.var "f"]]) ∧
      ∃ e, Expr.parse "1 - a * 2" = .ok e ∧ e.WellFormed ∧
        e = .chain [.literal (.int 1), .chain [.var "a", .literal (.int 2)] [.times]] [.subtract] := by
  let node := Node.output ⟨13, 1, 14⟩ (.pipe (.select (.var "v") [.var "k"]) [.var "f"])
  have hdocument : Document.parse "\x7b% block b %\x7d\x7b\x7b v.k | f \x7d\x7d\x7b% endblock %\x7d" =
      .ok (.root [.block ⟨0, 1, 1⟩ "b" [node]]) := by rfl
  have hexpression : Expr.parse "1 - a * 2" =
      .ok (.chain [.literal (.int 1), .chain [.var "a", .literal (.int 2)] [.times]] [.subtract]) := by rfl
  exact ⟨⟨_, hdocument, ((wellFormed_of_parse _).1 _ hdocument).1, node, rfl, rfl⟩,
    ⟨_, hexpression, ((wellFormed_of_parse _).2 _ hexpression).1, rfl⟩⟩

end TemplateEngine
