/-
  TemplateEngine.Proofs.Document.Openers — where the directives of a document stand.

  The directives of a document, each in front of those inside it (`Document.openers`), stand
  in the source in this order: behind the place of one, at least its mark has been read
  before the next is looked for (`Placed`). A rule for statements places what it reads if the
  rule for content does (`Places`).

  Proved:
  - `block_places`, `loop_places`, `conditional_places`, `statement_places`,
    `contentUpTo_places`: each rule places the directives it reads.
  - `openers_of_parse`: each position of a parsed document is that of a character at which
    the mark and the word of its directive stand, and the positions go up.
-/

import TemplateEngine.Proofs.Grammar.StatementYield
import TemplateEngine.Proofs.Position

namespace TemplateEngine

/-- A directive and where it opens. -/
structure Opener where
  directive : Directive
  position : Position
  deriving DecidableEq

mutual

/-- The directives of a node, itself ahead of those inside it. -/
def Node.openers : Node → List Opener
  | .text _ => []
  | .output position _ => [⟨.output, position⟩]
  | .block position _ content => ⟨.block, position⟩ :: Content.openers content
  | .inclusion position _ => [⟨.inclusion, position⟩]
  | .conditional position branches otherwise =>
    ⟨.conditional, position⟩ :: (Content.openersOfBranches branches ++ Content.openersOfOption otherwise)
  | .loop position _ _ _ body => ⟨.loop, position⟩ :: Content.openers body
  | .assignment position _ _ => [⟨.assignment, position⟩]

def Content.openers : List Node → List Opener
  | [] => []
  | node :: rest => node.openers ++ Content.openers rest

def Content.openersOfBranches : List (Expr × List Node) → List Opener
  | [] => []
  | (_, content) :: rest => Content.openers content ++ Content.openersOfBranches rest

def Content.openersOfOption : Option (List Node) → List Opener
  | none => []
  | some content => Content.openers content

end

def Override.openers (o : Override) : List Opener := ⟨.block, o.position⟩ :: Content.openers o.content

def Document.openers : Document → List Opener
  | .root content => Content.openers content
  | .extending position _ overrides => ⟨.inheritance, position⟩ :: overrides.flatMap Override.openers

namespace Grammar

open Scan

/-- The mark of the directive stands here, and its word as a word of its own. -/
def StartsWith : Directive → List Char → Prop
  | .output, s => ∃ t, s = '\x7b' :: '\x7b' :: t
  | directive, s => Opens directive.word s

/-- The directives stand in `s`, in this order and in front of `rest`. -/
inductive Placed (source : List Char) : List Char → List Opener → List Char → Prop
  | nil {s rest : List Char} : rest <:+ s → Placed source s [] rest
  | cons {s at' behind rest : List Char} {more : List Opener} (directive : Directive) : at' <:+ s →
      StartsWith directive at' → Takes at' behind → Placed source behind more rest →
      Placed source s (⟨directive, Position.before source at'⟩ :: more) rest

namespace Placed

variable {source s s' r rest : List Char} {openers more : List Opener}

theorem isSuffix (h : Placed source s openers rest) : rest <:+ s := by
  induction h with
  | nil hrest => exact hrest
  | cons _ hat _ htakes _ ih => exact (ih.trans htakes.isSuffix).trans hat

theorem behind (h : Placed source s openers rest) (hs : s <:+ s') : Placed source s' openers rest := by
  cases h with
  | nil hrest => exact .nil (hrest.trans hs)
  | cons directive hat hstarts htakes hmore => exact .cons directive (hat.trans hs) hstarts htakes hmore

theorem append (h : Placed source s openers r) (hmore : Placed source r more rest) :
    Placed source s (openers ++ more) rest := by
  induction h with
  | nil hr => exact hmore.behind hr
  | cons directive hat hstarts htakes _ ih => exact .cons directive hat hstarts htakes (ih hmore)

theorem before (h : Placed source s openers r) (hrest : rest <:+ r) : Placed source s openers rest := by
  have := h.append (.nil hrest)
  rwa [List.append_nil] at this

/-- A directive alone. -/
theorem single (directive : Directive) (hstarts : StartsWith directive s) (htakes : Takes s rest) :
    Placed source s [⟨directive, Position.before source s⟩] rest :=
  .cons directive (List.suffix_refl s) hstarts htakes (.nil (List.suffix_refl rest))

/-- A directive with content inside. -/
theorem around (directive : Directive) {inside after : List Char} (hstarts : StartsWith directive s)
    (htakes : Takes s inside) (h : Placed source inside openers after) (hend : Takes after rest) :
    Placed source s (⟨directive, Position.before source s⟩ :: openers) rest :=
  .cons directive (List.suffix_refl s) hstarts htakes (h.before hend.isSuffix)

/-- The places are in the text that the directives stand in, and they go up. -/
theorem increasing (h : Placed source s openers rest) (hs : s <:+ source) :
    (∀ o ∈ openers, Text.utf8Size source ≤ o.position.offset + Text.utf8Size s) ∧
      openers.Pairwise fun o o' => o.position.offset < o'.position.offset := by
  induction h with
  | nil => exact ⟨nofun, .nil⟩
  | @cons s at' behind rest more directive hat hstarts htakes _ ih =>
    obtain ⟨front, hfront⟩ := hat.trans hs
    obtain ⟨hlater, hpairwise⟩ := ih ((htakes.isSuffix.trans hat).trans hs)
    have hhere : (Position.before source at').offset + Text.utf8Size at' = Text.utf8Size source := by
      rw [← hfront, Position.before_append, Text.utf8Size_append]
      rfl
    have hle := Text.utf8Size_le_of_suffix hat
    have hlt := Text.utf8Size_lt_of_suffix htakes.isSuffix htakes.length_lt
    refine ⟨List.forall_mem_cons.mpr ⟨?_, fun o ho => ?_⟩, List.pairwise_cons.mpr ⟨fun o ho => ?_, hpairwise⟩⟩
    · show _ ≤ (Position.before source at').offset + _
      omega
    · have := hlater o ho
      omega
    · have := hlater o ho
      show (Position.before source at').offset < _
      omega

/-- Each position is that of a character, at which its directive starts. -/
theorem starts (h : Placed source s openers rest) (hs : s <:+ source) :
    ∀ o ∈ openers, ∃ front at', source = front ++ at' ∧ o.position = Position.after front ∧
      StartsWith o.directive at' := by
  induction h with
  | nil => exact nofun
  | @cons s at' behind rest more directive hat hstarts htakes _ ih =>
    obtain ⟨front, hfront⟩ := hat.trans hs
    refine List.forall_mem_cons.mpr ⟨⟨front, at', hfront.symm, ?_, hstarts⟩,
      ih ((htakes.isSuffix.trans hat).trans hs)⟩
    rw [← hfront, Position.before_append]

end Placed

/-! ## What the rules read -/

/-- The directives of what the rule reads stand in the piece that it reads. -/
def Places (source : List Char) {α : Type} (openers : α → List Opener) (rule : Statement α) : Prop :=
  ∀ names s read, rule names s = .ok read → Placed source s (openers read.found) read.rest

section Rules

variable {source : List Char} {content : Statement Content}
  (hc : Places source Content.openers content)
include hc

theorem block_places : Places source Override.openers (block source content) := by
  intro names s read h
  obtain ⟨name, r, body, rest, hopens, -, -, htakes, hbody, hend, rfl⟩ := block_yields h
  exact .around .block hopens htakes (hc _ _ _ hbody) hend

theorem loop_places : Places source Node.openers (loop source content) := by
  intro names s read h
  obtain ⟨target, collection, filters, r, body, rest, hopens, -, -, -, htakes, hbody, hend, rfl⟩ := loop_yields h
  rw [Node.openers]
  exact .around .loop hopens htakes (hc _ _ _ hbody) hend

theorem branch_places (start : List Char) :
    Places source (fun b => Content.openers b.2) (branch content start) := by
  intro names s read h
  obtain ⟨condition, r, body, -, htakes, hbody, rfl⟩ := branch_yields h
  exact (hc _ _ _ hbody).behind htakes.isSuffix

theorem furtherBranches_places (start : List Char) (n : Nat) :
    Places source Content.openersOfBranches (furtherBranches content start n) := by
  induction n with
  | zero => intro names s read h; cases h; exact .nil (List.suffix_refl _)
  | succ n ih =>
    intro names s read h
    rcases furtherBranches_yields h with rfl | ⟨r, first, more, htakes, hfirst, hmore, rfl⟩
    · exact .nil (List.suffix_refl _)
    · exact ((branch_places hc start _ _ _ hfirst).behind htakes.isSuffix).append (ih _ _ _ hmore)

theorem otherwise_places (start : List Char) :
    Places source Content.openersOfOption (otherwise content start) := by
  intro names s read h
  rcases otherwise_yields h with rfl | ⟨r, body, htakes, hbody, rfl⟩
  · exact .nil (List.suffix_refl _)
  · exact (hc _ _ _ hbody).behind htakes.isSuffix

theorem conditional_places : Places source Node.openers (conditional source content) := by
  intro names s read h
  obtain ⟨r, first, more, last, rest, hopens, htakes, hfirst, hmore, hlast, hend, rfl⟩ := conditional_yields h
  have hbranches := (branch_places hc _ _ _ _ hfirst).append (furtherBranches_places hc _ _ _ _ _ hmore)
  rw [Node.openers]
  exact .around .conditional hopens htakes (hbranches.append (otherwise_places hc _ _ _ _ hlast)) hend

theorem statement_places : Places source Node.openers (statement source content) := by
  intro names s read h
  rcases statement_eq_ok_iff.mp h with
    ⟨-, o, ho, rfl⟩ | ⟨-, node, rest, hnode, rfl⟩ | ⟨-, h⟩ | ⟨-, h⟩ | ⟨-, node, rest, hnode, rfl⟩
  · have hplaced := block_places hc _ _ _ ho
    rw [Node.openers]
    exact hplaced
  · obtain ⟨name, hopens, htakes, rfl⟩ := inclusion_yields hnode
    rw [Node.openers]
    exact .single .inclusion hopens htakes
  · exact loop_places hc _ _ _ h
  · exact conditional_places hc _ _ _ h
  · obtain ⟨name, e, hopens, -, -, htakes, rfl⟩ := assignment_yields hnode
    rw [Node.openers]
    exact .single .assignment hopens htakes

end Rules

theorem openers_withText (text : List Char) (content : Content) :
    Content.openers (withText text content) = Content.openers content := by
  unfold withText
  split
  · rfl
  · rw [Content.openers, Node.openers]
    rfl

theorem contentUpTo_places (source : List Char) :
    ∀ n text, Places source Content.openers (contentUpTo source n text) := by
  intro n
  induction n with
  | zero =>
    intro text names s read h
    cases h
    rw [openers_withText]
    exact .nil (List.suffix_refl s)
  | succ n ih =>
    intro text names s read h
    cases (contentUpTo_succ_iff source).mp h with
    | source =>
      rw [openers_withText]
      exact .nil (List.suffix_refl [])
    | closing =>
      rw [openers_withText]
      exact .nil (List.suffix_refl s)
    | output hmark hnode hmore =>
      obtain ⟨e, -, hstarts, htakes, rfl⟩ := output_yields hmark hnode
      rw [openers_withText, Content.openers, Node.openers]
      exact (Placed.single .output hstarts htakes).append (ih _ _ _ _ hmore)
    | statement hnode hmore =>
      rw [openers_withText, Content.openers]
      exact (statement_places (ih []) _ _ _ hnode).append (ih _ _ _ _ hmore)
    | verbatim _ hbody hread => exact (ih _ _ _ _ hread).behind (verbatim_takes hbody).isSuffix
    | comment hcomment hread =>
      obtain ⟨body, -, rfl⟩ := comment?_eq_some_iff.mp hcomment
      exact (ih _ _ _ _ hread).behind ⟨'\x7b' :: '#' :: (body ++ ['#', '\x7d']), by simp⟩
    | char _ hread => exact (ih _ _ _ _ hread).behind (List.suffix_cons ..)

theorem content_places (source : List Char) : Places source Content.openers (content source) :=
  fun names s => contentUpTo_places source s.length [] names s

theorem overrides_places (source : List Char) {n : Nat} {names : List String} {s : List Char}
    {found : List Override} (h : overrides source n names s = .ok found) :
    ∃ rest, Placed source s (found.flatMap Override.openers) rest := by
  induction n generalizing names s found with
  | zero => cases h; exact ⟨s, .nil (List.suffix_refl s)⟩
  | succ n ih =>
    rcases (overrides_succ_iff source).mp h with ⟨-, rfl⟩ | ⟨-, first, more, hfirst, hmore, rfl⟩
    · exact ⟨s, .nil (List.suffix_refl s)⟩
    · obtain ⟨rest, hrest⟩ := ih hmore
      rw [List.flatMap_cons]
      exact ⟨rest, ((block_places (content_places source) _ _ _ hfirst).behind (skipSpacing_isSuffix s)).append
        hrest⟩

theorem document_places {source : List Char} {document : Document}
    (h : Grammar.document source = .ok document) : ∃ rest, Placed source source document.openers rest := by
  rcases (document_eq_ok_iff source).mp h with
    ⟨-, r, parent, r', r'', found, hopen, hparent, hclose, hfound, rfl⟩ | ⟨-, read, hread, -, rfl⟩
  · obtain ⟨hopens, htakes, -⟩ := openTag?_opens (by decide) hopen
    obtain ⟨piece, -, -, hr, -⟩ := string?_takes hparent
    obtain ⟨rest, hrest⟩ := overrides_places source hfound
    have hhead : Takes (skipSpacing source) r'' :=
      htakes.suffix ((closeTag_isSuffix hclose).trans ⟨piece, hr.symm⟩)
    exact ⟨rest, .cons .inheritance (skipSpacing_isSuffix source) hopens hhead hrest⟩
  · exact ⟨read.rest, content_places source _ _ _ hread⟩

end Grammar

/-- Each position in a parsed document is that of a character of the source, with its line
    and column, at which its directive starts, and the positions of the directives go up, each
    of them ahead of those inside it. -/
theorem openers_of_parse {source : String} {document : Document}
    (h : Document.parse source = .ok document) :
    (∀ o ∈ document.openers, ∃ front rest, source.toList = front ++ rest ∧
      o.position.offset = Text.utf8Size front ∧ Grammar.StartsWith o.directive rest ∧
        o.position = Position.ofOffset source.toList o.position.offset) ∧
      document.openers.Pairwise fun o o' => o.position.offset < o'.position.offset := by
  obtain ⟨rest, hplaced⟩ := Grammar.document_places (Document.parse_eq_ok_iff.mp h)
  refine ⟨fun o ho => ?_, (hplaced.increasing (List.suffix_refl _)).2⟩
  obtain ⟨front, rest, hsource, hposition, hstarts⟩ := hplaced.starts (List.suffix_refl _) o ho
  refine ⟨front, rest, hsource, by rw [hposition]; rfl, hstarts, ?_⟩
  rw [hposition, hsource]
  exact (Position.ofOffset_append front rest).symm

set_option maxRecDepth 2000 in
/-- Behind two letters of two bytes each a loop, and inside it an include whose word stands
    behind a comment, behind a comment that looks like a tag. -/
theorem openers_of_loop : ∃ d : Document,
    Document.parse "éé\x7b%for v in m%\x7d\x7b#\x7b%set#\x7d\x7b%\x7b##\x7dinclude 'a'%\x7d\x7b%endfor%\x7d" = .ok d ∧
      d.openers = [⟨.loop, ⟨4, 1, 3⟩⟩, ⟨.inclusion, ⟨27, 1, 26⟩⟩] ∧
      (∀ o ∈ d.openers, ∃ front rest,
        "éé\x7b%for v in m%\x7d\x7b#\x7b%set#\x7d\x7b%\x7b##\x7dinclude 'a'%\x7d\x7b%endfor%\x7d".toList =
            front ++ rest ∧
          o.position.offset = Text.utf8Size front ∧ Grammar.StartsWith o.directive rest) ∧
      d.openers.Pairwise fun o o' => o.position.offset < o'.position.offset := by
  have hparse : Document.parse
      "éé\x7b%for v in m%\x7d\x7b#\x7b%set#\x7d\x7b%\x7b##\x7dinclude 'a'%\x7d\x7b%endfor%\x7d" =
        .ok (.root [.text "éé", .loop ⟨4, 1, 3⟩ (.value "v") (.var "m") []
          [.inclusion ⟨27, 1, 26⟩ "a"]]) := by rfl
  obtain ⟨hstarts, hpairwise⟩ := openers_of_parse hparse
  refine ⟨_, hparse, rfl, fun o ho => ?_, hpairwise⟩
  obtain ⟨front, rest, hsource, hoffset, hopens, -⟩ := hstarts o ho
  exact ⟨front, rest, hsource, hoffset, hopens⟩

end TemplateEngine
