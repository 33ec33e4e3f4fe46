/-
  TemplateEngine.Proofs.Grammar.BlockNames — the names of blocks in a source that was read.

  The rules for statements hand on the names of the blocks met so far. What a rule adds to
  them are the names of the blocks it has read, at any depth, each of them once (`Tracks`).

  Proved:
  - `block_tracks`, `loop_tracks`, `conditional_tracks`, `statement_tracks`,
    `contentUpTo_tracks`: each rule tracks names if the rule for content does, and so does
    the rule for content.
  - `nodup_names_of_parse`: in a document with a parent no two blocks have the same name,
    the overrides and the blocks inside them taken together.
-/

import TemplateEngine.Grammar.Document
import TemplateEngine.Proofs.Content.Parts
import TemplateEngine.Proofs.Except

namespace TemplateEngine.Grammar

open Scan TemplateEngine.Except
open scoped List

/-- The names of what was read, added to the names before, are the names after, and names
    stay unique. -/
structure NamesKept {α : Type} (blocks : α → List String) (names : List String) (read : Read α) :
    Prop where
  added : read.names.Perm (blocks read.found ++ names)
  unique : names.Nodup → read.names.Nodup

/-- Whatever a rule reads, it hands on the right names. -/
def Tracks {α : Type} (blocks : α → List String) (rule : Statement α) : Prop :=
  ∀ names s read, rule names s = .ok read → NamesKept blocks names read

/-- The names of an override and of the blocks inside it. -/
def overrideNames (o : Override) : List String := o.name :: Content.blockNames o.content

namespace NamesKept

variable {α β : Type} {blocks : α → List String} {blocks' : β → List String}
  {names : List String} {read : Read α}

/-- Names are handed on from one rule to the next. -/
theorem andThen {more : Read β} (h : NamesKept blocks names read)
    (h' : NamesKept blocks' read.names more) :
    more.names.Perm (blocks read.found ++ blocks' more.found ++ names) ∧
      (names.Nodup → more.names.Nodup) := by
  refine ⟨?_, fun hn => h'.unique (h.unique hn)⟩
  calc more.names
    _ ~ blocks' more.found ++ read.names := h'.added
    _ ~ blocks' more.found ++ (blocks read.found ++ names) := h.added.append_left _
    _ = blocks' more.found ++ blocks read.found ++ names := (List.append_assoc ..).symm
    _ ~ blocks read.found ++ blocks' more.found ++ names :=
      .append_right _ List.perm_append_comm

end NamesKept

section Rules

variable {source : List Char} {content : Statement Content} (hc : Tracks Content.blockNames content)
include hc

theorem block_tracks : Tracks overrideNames (block source content) := by
  intro names s read h
  rw [block] at h
  obtain ⟨named, -, h⟩ := bind_eq_ok.mp h
  obtain ⟨⟨name, rest⟩, -, h⟩ := bind_eq_ok.mp h
  obtain ⟨tagEnd, -, h⟩ := bind_eq_ok.mp h
  split at h
  · cases h
  rename_i hname
  obtain ⟨body, hbody, h⟩ := bind_eq_ok.mp h
  obtain ⟨rest', -, h⟩ := bind_eq_ok.mp h
  cases h
  obtain ⟨hadded, hunique⟩ := hc _ _ _ hbody
  have hnew : name ∉ names := by simpa using hname
  exact ⟨hadded.trans List.perm_middle, fun hn => hunique (List.nodup_cons.mpr ⟨hnew, hn⟩)⟩

theorem loop_tracks : Tracks Node.blockNames (loop source content) := by
  intro names s read h
  rw [loop] at h
  obtain ⟨rest, -, h⟩ := bind_eq_ok.mp h
  obtain ⟨⟨target, rest⟩, -, h⟩ := bind_eq_ok.mp h
  dsimp only at h
  split at h
  case h_2 => cases h
  obtain ⟨rest, -, h⟩ := bind_eq_ok.mp h
  obtain ⟨⟨collection, rest⟩, -, h⟩ := bind_eq_ok.mp h
  obtain ⟨⟨filters, rest⟩, -, h⟩ := bind_eq_ok.mp h
  obtain ⟨rest, -, h⟩ := bind_eq_ok.mp h
  obtain ⟨body, hbody, h⟩ := bind_eq_ok.mp h
  obtain ⟨rest, -, h⟩ := bind_eq_ok.mp h
  cases h
  obtain ⟨hadded, hunique⟩ := hc _ _ _ hbody
  refine ⟨?_, hunique⟩
  rw [Node.blockNames]
  exact hadded

theorem branch_tracks (start : List Char) :
    Tracks (fun b => Content.blockNames b.2) (branch content start) := by
  intro names s read h
  rw [branch] at h
  obtain ⟨⟨condition, rest⟩, -, h⟩ := bind_eq_ok.mp h
  obtain ⟨rest, -, h⟩ := bind_eq_ok.mp h
  obtain ⟨body, hbody, h⟩ := bind_eq_ok.mp h
  cases h
  obtain ⟨hadded, hunique⟩ := hc _ _ _ hbody
  exact ⟨hadded, hunique⟩

theorem furtherBranches_tracks (start : List Char) :
    ∀ n, Tracks Content.blockNamesOfBranches (furtherBranches content start n) := by
  intro n
  induction n with
  | zero => intro names s read h; cases h; exact ⟨.refl _, id⟩
  | succ n ih =>
    intro names s read h
    rw [furtherBranches] at h
    split at h
    · obtain ⟨rest, -, h⟩ := bind_eq_ok.mp h
      obtain ⟨first, hfirst, h⟩ := bind_eq_ok.mp h
      obtain ⟨more, hmore, h⟩ := bind_eq_ok.mp h
      cases h
      obtain ⟨hadded, hunique⟩ := (branch_tracks hc start _ _ _ hfirst).andThen (ih _ _ _ hmore)
      exact ⟨hadded, hunique⟩
    · cases h; exact ⟨.refl _, id⟩

theorem otherwise_tracks (start : List Char) :
    Tracks Content.blockNamesOfOption (otherwise content start) := by
  intro names s read h
  rw [otherwise] at h
  split at h
  · obtain ⟨rest, -, h⟩ := bind_eq_ok.mp h
    obtain ⟨rest, -, h⟩ := bind_eq_ok.mp h
    obtain ⟨body, hbody, h⟩ := bind_eq_ok.mp h
    cases h
    obtain ⟨hadded, hunique⟩ := hc _ _ _ hbody
    exact ⟨hadded, hunique⟩
  · cases h; exact ⟨.refl _, id⟩

theorem conditional_tracks : Tracks Node.blockNames (conditional source content) := by
  intro names s read h
  rw [conditional] at h
  obtain ⟨rest, -, h⟩ := bind_eq_ok.mp h
  obtain ⟨first, hfirst, h⟩ := bind_eq_ok.mp h
  obtain ⟨more, hmore, h⟩ := bind_eq_ok.mp h
  obtain ⟨last, hlast, h⟩ := bind_eq_ok.mp h
  obtain ⟨rest, -, h⟩ := bind_eq_ok.mp h
  cases h
  have hbranches := (branch_tracks hc _ _ _ _ hfirst).andThen (furtherBranches_tracks hc _ _ _ _ _ hmore)
  have hall : NamesKept Content.blockNamesOfBranches names
      ⟨first.found :: more.found, more.names, more.rest⟩ := ⟨hbranches.1, hbranches.2⟩
  obtain ⟨hadded, hunique⟩ := hall.andThen (otherwise_tracks hc _ _ _ _ hlast)
  refine ⟨?_, hunique⟩
  rw [Node.blockNames]
  exact hadded

theorem statement_tracks : Tracks Node.blockNames (statement source content) := by
  intro names s read h
  rw [statement] at h
  split at h
  · obtain ⟨o, ho, h⟩ := bind_eq_ok.mp h
    cases h
    obtain ⟨hadded, hunique⟩ := block_tracks hc _ _ _ ho
    refine ⟨?_, hunique⟩
    rw [Node.blockNames]
    exact hadded
  · obtain ⟨alone, halone, h⟩ := bind_eq_ok.mp h
    rw [inclusion] at halone
    obtain ⟨rest, -, halone⟩ := bind_eq_ok.mp halone
    obtain ⟨⟨template, rest⟩, -, halone⟩ := bind_eq_ok.mp halone
    obtain ⟨rest, -, halone⟩ := bind_eq_ok.mp halone
    cases halone; cases h
    exact ⟨.refl _, id⟩
  · exact loop_tracks hc _ _ _ h
  · exact conditional_tracks hc _ _ _ h
  · obtain ⟨alone, halone, h⟩ := bind_eq_ok.mp h
    rw [assignment] at halone
    obtain ⟨rest, -, halone⟩ := bind_eq_ok.mp halone
    obtain ⟨⟨name, rest⟩, -, halone⟩ := bind_eq_ok.mp halone
    obtain ⟨rest, -, halone⟩ := bind_eq_ok.mp halone
    obtain ⟨⟨e, rest⟩, -, halone⟩ := bind_eq_ok.mp halone
    obtain ⟨rest, -, halone⟩ := bind_eq_ok.mp halone
    cases halone; cases h
    exact ⟨.refl _, id⟩
  · cases h

end Rules

/-! ## Content -/

theorem blockNames_withText (text : List Char) (content : Content) :
    Content.blockNames (withText text content) = Content.blockNames content := by
  unfold withText
  split
  · rfl
  · rfl

theorem blockNames_of_output {source s rest : List Char} {node : Node}
    (h : output source s = .ok (node, rest)) : node.blockNames = [] := by
  rw [output] at h
  obtain ⟨⟨e, rest⟩, -, h⟩ := bind_eq_ok.mp h
  dsimp only at h
  split at h
  · cases h; rfl
  · cases h

/-- A node and the content behind it, with text ahead of them. -/
theorem NamesKept.withText {names : List String} {node : Read Node} {more : Read Content}
    (text : List Char) (h : NamesKept Node.blockNames names node)
    (h' : NamesKept Content.blockNames node.names more) :
    NamesKept Content.blockNames names
      ⟨withText text (node.found :: more.found), more.names, more.rest⟩ := by
  obtain ⟨hadded, hunique⟩ := h.andThen h'
  refine ⟨?_, hunique⟩
  rw [blockNames_withText, Content.blockNames]
  exact hadded

theorem contentUpTo_tracks (source : List Char) :
    ∀ n text, Tracks Content.blockNames (contentUpTo source n text) := by
  intro n
  induction n with
  | zero =>
    intro text names s read h
    cases h
    exact ⟨by rw [blockNames_withText]; exact .refl _, id⟩
  | succ n ih =>
    intro text names s read h
    have hdone : ∀ rest, NamesKept Content.blockNames names ⟨withText text [], names, rest⟩ :=
      fun rest => ⟨by rw [blockNames_withText]; exact .refl _, id⟩
    cases s with
    | nil => cases h; exact hdone []
    | cons c cs =>
      rw [contentUpTo] at h
      split at h
      · obtain ⟨⟨node, rest⟩, hnode, h⟩ := bind_eq_ok.mp h
        obtain ⟨more, hmore, h⟩ := bind_eq_ok.mp h
        cases h
        have hn : NamesKept Node.blockNames names ⟨node, names, rest⟩ :=
          ⟨by rw [blockNames_of_output hnode]; exact .refl _, id⟩
        exact hn.withText text (ih _ _ _ _ hmore)
      split at h
      · split at h
        · obtain ⟨⟨body, rest⟩, -, h⟩ := bind_eq_ok.mp h
          exact ih _ _ _ _ h
        · split at h
          · cases h; exact hdone _
          · obtain ⟨node, hnode, h⟩ := bind_eq_ok.mp h
            obtain ⟨more, hmore, h⟩ := bind_eq_ok.mp h
            cases h
            exact (statement_tracks (ih []) _ _ _ hnode).withText text (ih _ _ _ _ hmore)
      · split at h
        · exact ih _ _ _ _ h
        · exact ih _ _ _ _ h

theorem content_tracks (source : List Char) : Tracks Content.blockNames (content source) :=
  fun names s => contentUpTo_tracks source s.length [] names s

/-! ## Documents -/

theorem nodup_names_of_overrides (source : List Char) :
    ∀ n names s found, overrides source n names s = .ok found → names.Nodup →
      (found.flatMap overrideNames ++ names).Nodup := by
  intro n
  induction n with
  | zero => intro names s found h hn; cases h; exact hn
  | succ n ih =>
    intro names s found h hn
    rw [overrides] at h
    split at h
    · cases h; exact hn
    split at h
    · obtain ⟨first, hfirst, h⟩ := bind_eq_ok.mp h
      obtain ⟨more, hmore, h⟩ := bind_eq_ok.mp h
      cases h
      obtain ⟨hadded, hunique⟩ := block_tracks (content_tracks source) _ _ _ hfirst
      have hrest := ih _ _ _ hmore (hunique hn)
      refine (List.Perm.nodup_iff ?_).mp hrest
      calc more.flatMap overrideNames ++ first.names
        _ ~ more.flatMap overrideNames ++ (overrideNames first.found ++ names) := hadded.append_left _
        _ = more.flatMap overrideNames ++ overrideNames first.found ++ names :=
          (List.append_assoc ..).symm
        _ ~ overrideNames first.found ++ more.flatMap overrideNames ++ names :=
          List.perm_append_comm.append_right _
    · cases h

/-- In a source that names a parent no two blocks have the same name. -/
theorem nodup_names_of_parse {source parent : String} {position : Position} {found : List Override}
    (h : Document.parse source = .ok (.extending position parent found)) :
    (found.flatMap overrideNames).Nodup := by
  have h : document source.toList = .ok (.extending position parent found) := mapError_eq_ok.mp h
  rw [document] at h
  split at h
  · rw [extending] at h
    obtain ⟨rest, -, h⟩ := bind_eq_ok.mp h
    obtain ⟨⟨name, rest⟩, -, h⟩ := bind_eq_ok.mp h
    obtain ⟨rest, -, h⟩ := bind_eq_ok.mp h
    obtain ⟨found', hfound, h⟩ := bind_eq_ok.mp h
    cases h
    simpa using nodup_names_of_overrides _ _ _ _ _ hfound .nil
  · rw [root] at h
    obtain ⟨read, -, h⟩ := bind_eq_ok.mp h
    split at h
    · cases h
    · cases h

end TemplateEngine.Grammar
