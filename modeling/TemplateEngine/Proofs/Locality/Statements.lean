/-
  TemplateEngine.Proofs.Locality.Statements — statements in another source.

  A piece `p` that is read in front of `q` in one source is read in front of `t` in another.
  What is read is the same, with its positions changed to those of the other source
  (`Moved`). It fits there if none of its blocks has a name that is taken, and if what
  follows it differs, no comment may open in its text (`Fits`). A statement with content is
  carried over if the content is: inside, content ends at the same tag in both (`AtClause`).

  Proved:
  - `block_carried`, `loop_carried`, `conditional_carried`, `statement_carried`: each
    statement is carried over if the rule for content carries over what it reads.
-/

import TemplateEngine.Proofs.Content.Joined
import TemplateEngine.Proofs.Document.Content
import TemplateEngine.Proofs.Document.Openers
import TemplateEngine.Proofs.Locality.Tags

namespace TemplateEngine.Grammar

open Scan

variable {f : Position → Position} {S S' p q t : List Char} {taken : List String}

/-- Each place in front of `q` in the one source has the position that is changed to the one it
    has in front of `t` in the other. -/
def Moved (f : Position → Position) (S S' q t : List Char) : Prop :=
  ∀ p, p ++ q <:+ S → f (Position.before S (p ++ q)) = Position.before S' (p ++ t)

theorem Moved.inside (h : Moved f S S' q t) (c : List Char) : Moved f S S' (c ++ q) (c ++ t) := by
  intro p hp
  rw [← List.append_assoc] at hp ⊢
  rw [← List.append_assoc]
  exact h (p ++ c) hp

/-- More text behind a source moves nothing in it. -/
theorem moved_append (S q t : List Char) : Moved id S (S ++ t) q (q ++ t) := by
  rintro p ⟨front, rfl⟩
  rw [List.append_assoc front, List.append_assoc p, Position.before_append, Position.before_append]
  rfl

/-- What is found in front of `q` is found in front of `t` as well: either these are the same,
    or no comment opens in its text; and none of its blocks has a name that is taken. -/
structure Fits (taken : List String) (q t : List Char) (found : Content) : Prop where
  text : q = t ∨ ∀ text : String, Occurs (.text text) found → Uncommented text.toList
  blocks : ∀ name ∈ Content.blockNames found, name ∉ taken

namespace Fits

theorem sublist {found more : Content} (h : Fits taken q t found) (hsub : ∀ node ∈ more, node ∈ found) :
    Fits taken q t more where
  text := h.text.imp id fun htext text ho => htext text (by
    cases ho with
    | here hmem => exact .here (hsub _ hmem)
    | inside hmem hpart ho => exact .inside (hsub _ hmem) hpart ho)
  blocks := fun name hname => by
    obtain ⟨node, hnode, hn⟩ := mem_blockNames.mp hname
    exact h.blocks name (mem_blockNames.mpr ⟨node, hsub node hnode, hn⟩)

theorem part {node : Node} (h : Fits taken q t [node]) {part : Content} (hpart : part ∈ node.contents) :
    Fits taken q t part where
  text := h.text.imp id fun htext text ho => htext text (.inside (List.mem_cons_self ..) hpart ho)
  blocks := fun name hname =>
    h.blocks name (mem_blockNames.mpr ⟨node, List.mem_cons_self .., mem_blockNames_of_part hpart hname⟩)

theorem inside {found : Content} (h : Fits taken q t found) (c : List Char) :
    Fits taken (c ++ q) (c ++ t) found where
  text := h.text.imp (congrArg (c ++ ·)) id
  blocks := h.blocks

end Fits

/-- The tag of a closing word opens both texts. -/
structure AtClause (q t : List Char) : Prop where
  brace : q.head? = some '\x7b'
  word : ∃ word ∈ closingWords, tagWord? t = some word

theorem AtClause.of_openTag? {word : String} (hword : word ∈ closingWords) {s s' r r' : List Char}
    (h : openTag? word s = some r) (h' : openTag? word s' = some r') : AtClause s s' := by
  have hkeyword := closingWords_keywords word hword
  refine ⟨?_, word, hword, tagWord?_of_openTag? hkeyword h'⟩
  obtain ⟨rest, rfl⟩ := mark?_of_tagWord? (tagWord?_of_openTag? hkeyword h)
  rfl

/-- What the rule for content reads up to a closing tag, it reads in the other source as well. -/
def Carries (f : Position → Position) (S S' : List Char) (taken : List String) (m : Nat)
    (content content' : Statement Content) : Prop :=
  ∀ p q t names found names', content names (p ++ q) = .ok ⟨found, names', q⟩ → AtClause q t →
    Moved f S S' q t → p ++ q <:+ S → Fits taken q t found → (p ++ t).length ≤ m →
      content' (names ++ taken) (p ++ t) = .ok ⟨Content.mapPositions f found, names' ++ taken, t⟩

theorem length_le_of_suffix {b : List Char} (h : b ++ q <:+ p ++ q) (t : List Char) :
    (b ++ t).length ≤ (p ++ t).length := by
  have hle := h.length_le
  simp only [List.length_append] at hle ⊢
  omega

theorem length_le_of_takes {c d : List Char} (h : Takes (p ++ q) (c ++ (d ++ q))) {m : Nat}
    (hm : (p ++ t).length ≤ m + 1) : (c ++ (d ++ t)).length ≤ m := by
  have hlt := h.length_lt
  simp only [List.length_append] at hlt hm ⊢
  omega

/-- What is left of a piece in front of a text is left of the piece alone. -/
theorem exists_front {b : List Char} (h : b ++ q <:+ p ++ q) : ∃ p', p = p' ++ b := by
  obtain ⟨p', hp⟩ := h
  rw [← List.append_assoc] at hp
  exact ⟨p', (List.append_cancel_right hp).symm⟩

theorem endClause_opens {word : String} {directive : Directive} {start s rest : List Char}
    (h : endClause word directive start s = .ok rest) : ∃ r, openTag? word s = some r := by
  obtain ⟨-, r, hopen, -⟩ := endClause_eq_ok_iff.mp h
  exact ⟨r, hopen⟩

section Rules

variable {content content' : Statement Content} {m : Nat} {names names' : List String}
  (hplaces : Places S Content.openers content) (hc : Carries f S S' taken m content content')
include hplaces hc

theorem branch_carried {start : List Char} (start' : List Char) {condition : Expr} {found : Content}
    (h : branch content start names (p ++ q) = .ok ⟨(condition, found), names', q⟩) (hends : AtClause q t)
    (hmoved : Moved f S S' q t) (hs : p ++ q <:+ S) (hfits : Fits taken q t found) (hm : (p ++ t).length ≤ m) :
    Firm p ∧ branch content' start' (names ++ taken) (p ++ t) =
      .ok ⟨(condition, Content.mapPositions f found), names' ++ taken, t⟩ := by
  obtain ⟨e, r, r', body, he, hclose, hbody, hread⟩ := branch_eq_ok_iff.mp h
  obtain ⟨body, names'', rest⟩ := body
  obtain ⟨hfound, rfl, rfl⟩ := Read.mk.inj hread.symm
  obtain ⟨rfl, rfl⟩ := Prod.mk.inj hfound
  obtain ⟨b, rfl⟩ : q <:+ r' := (hplaces _ _ _ hbody).isSuffix
  obtain ⟨hfirm, r', he', hclose'⟩ := expression_tagEnd he hclose start' t
  have hsuffix : b ++ q <:+ p ++ q :=
    (closeTag_isSuffix hclose).trans (expression_yields _ _ _ he).2.1.isSuffix
  have hbody' := hc b q t _ _ _ hbody hends hmoved (hsuffix.trans hs) hfits
    ((length_le_of_suffix hsuffix t).trans hm)
  exact ⟨hfirm, branch_eq_ok_iff.mpr ⟨condition, _, _, _, he', hclose', hbody', rfl⟩⟩

theorem furtherBranches_carried {start : List Char} (start' : List Char) {n k : Nat} {found : List (Expr × Content)}
    (h : furtherBranches content start n names (p ++ q) = .ok ⟨found, names', q⟩) (hends : AtClause q t)
    (hlast : tagWord? t ≠ some "elseif") (hmoved : Moved f S S' q t)
    (hs : p ++ q <:+ S) (hfits : ∀ b ∈ found, Fits taken q t b.2) (hm : (p ++ t).length ≤ m) (hk : p.length ≤ k) :
    AtClause (p ++ q) (p ++ t) ∧ furtherBranches content' start' k (names ++ taken) (p ++ t) =
      .ok ⟨Content.mapPositionsOfBranches f found, names' ++ taken, t⟩ := by
  have hnone : ∀ k names, furtherBranches content' start' k (names ++ taken) t = .ok ⟨[], names ++ taken, t⟩ := by
    intro k names
    cases k with
    | zero => rfl
    | succ k => exact furtherBranches_succ_iff.mpr (.inl ⟨hlast, rfl⟩)
  induction n generalizing p names found k with
  | zero =>
    obtain ⟨rfl, rfl, hs⟩ := Read.mk.inj (Except.ok.inj h)
    obtain rfl := List.append_left_eq_self.mp hs
    exact ⟨hends, hnone k names⟩
  | succ n ih =>
    rcases furtherBranches_succ_iff.mp h with ⟨-, hread⟩ | ⟨-, r, first, more, hopen, hfirst, hmore, hread⟩
    · obtain ⟨rfl, rfl, hs⟩ := Read.mk.inj hread
      obtain rfl := List.append_left_eq_self.mp hs
      exact ⟨hends, hnone k names⟩
    obtain ⟨⟨condition, inside⟩, names₁, r₁⟩ := first
    obtain ⟨more, names₂, rest⟩ := more
    obtain ⟨rfl, rfl, rfl⟩ := Read.mk.inj hread.symm
    have hrest := (furtherBranches_places hplaces start n _ _ _ hmore).isSuffix
    obtain ⟨c, rfl⟩ : q <:+ r₁ := hrest
    obtain ⟨b, rfl⟩ := (branch_places hplaces start _ _ _ hfirst).isSuffix
    have htakes := (openTag?_opens (by decide) hopen).2.1
    have hsuffix : c ++ q <:+ p ++ q := (List.suffix_append b _).trans htakes.isSuffix
    have hlen := htakes.length_lt
    simp only [List.length_append] at hlen
    obtain ⟨k, rfl⟩ : ∃ j, k = j + 1 := ⟨k - 1, by omega⟩
    obtain ⟨hfits₁, hfits₂⟩ := List.forall_mem_cons.mp hfits
    obtain ⟨hends', hmore'⟩ := ih hmore (hsuffix.trans hs) hfits₂
      ((length_le_of_suffix hsuffix t).trans hm) (show c.length ≤ k by omega)
    have hm' : (b ++ (c ++ t)).length ≤ m := by
      rw [List.length_append] at hm
      simp only [List.length_append]
      omega
    obtain ⟨hfirm, hfirst'⟩ := branch_carried hplaces hc start' hfirst hends'
      (hmoved.inside c) (htakes.isSuffix.trans hs) (hfits₁.inside c) hm'
    rw [← List.append_assoc] at hopen
    have hopen' := openTag?_swap (by decide) hopen (hfirm.append c) t
    rw [List.append_assoc] at hopen'
    refine ⟨.of_openTag? (by decide) hopen hopen', furtherBranches_succ_iff.mpr (.inr ?_)⟩
    exact ⟨tagWord?_of_openTag? (by decide) hopen', _, _, _, hopen', hfirst', hmore', rfl⟩

/-- The end of a conditional, from the clause for all other cases on. -/
theorem otherwise_carried {start : List Char} (start' : List Char) {found : Option Content}
    (h : otherwise content start names (p ++ q) = .ok ⟨found, names', q⟩) (hends : AtClause q t)
    (hlast : tagWord? t = some "endif") (hmoved : Moved f S S' q t)
    (hs : p ++ q <:+ S) (hfits : ∀ part ∈ found, Fits taken q t part) (hm : (p ++ t).length ≤ m) :
    AtClause (p ++ q) (p ++ t) ∧ tagWord? (p ++ t) ≠ some "elseif" ∧
      otherwise content' start' (names ++ taken) (p ++ t) =
        .ok ⟨Content.mapPositionsOfOption f found, names' ++ taken, t⟩ := by
  rcases otherwise_eq_ok_iff.mp h with ⟨-, hread⟩ | ⟨-, r, r', body, hopen, hclose, hbody, hread⟩
  · obtain ⟨rfl, rfl, hs⟩ := Read.mk.inj hread
    obtain rfl := List.append_left_eq_self.mp hs
    rw [List.nil_append, List.nil_append, hlast]
    exact ⟨hends, by decide, otherwise_eq_ok_iff.mpr (.inl ⟨by rw [hlast]; decide, rfl⟩)⟩
  · obtain ⟨body, names'', rest⟩ := body
    obtain ⟨rfl, rfl, rfl⟩ := Read.mk.inj hread.symm
    obtain ⟨b, rfl⟩ : q <:+ r' := (hplaces _ _ _ hbody).isSuffix
    have hsuffix : b ++ q <:+ p ++ q :=
      (closeTag_isSuffix hclose).trans (openTag?_opens (by decide) hopen).2.1.isSuffix
    have hbody' := hc b q t _ _ _ hbody hends hmoved (hsuffix.trans hs) (hfits body rfl)
      ((length_le_of_suffix hsuffix t).trans hm)
    obtain ⟨r', hopen', hclose'⟩ := openTag_closed (by decide) hopen hclose start' t
    have hword : tagWord? (p ++ t) = some "else" := tagWord?_of_openTag? (by decide) hopen'
    refine ⟨.of_openTag? (by decide) hopen hopen', by rw [hword]; decide, ?_⟩
    exact otherwise_eq_ok_iff.mpr (.inr ⟨hword, r', _, _, hopen', hclose', hbody', rfl⟩)

theorem conditional_carried {node : Node}
    (h : conditional S content names (p ++ q) = .ok ⟨node, names', q⟩)
    (hmoved : Moved f S S' q t) (hs : p ++ q <:+ S) (hfits : Fits taken q t [node]) (hm : (p ++ t).length ≤ m + 1) :
    conditional S' content' (names ++ taken) (p ++ t) =
      .ok ⟨node.mapPositions f, names' ++ taken, t⟩ := by
  obtain ⟨r, first, more, last, rest, hopen, hfirst, hmore, hlast, hend, hread⟩ := conditional_eq_ok_iff.mp h
  obtain ⟨⟨condition, inside⟩, names₁, r₁⟩ := first
  obtain ⟨more, names₂, r₂⟩ := more
  obtain ⟨last, names₃, r₃⟩ := last
  obtain ⟨rfl, rfl, rfl⟩ := Read.mk.inj hread.symm
  -- each part ends at the clause of the next one, and the last one at the end of the conditional
  obtain ⟨d, rfl⟩ := (endClause_takes (by decide) hend).isSuffix
  obtain ⟨c, rfl⟩ := (otherwise_places hplaces _ _ _ _ hlast).isSuffix
  obtain ⟨b, rfl⟩ := (furtherBranches_places hplaces _ _ _ _ _ hmore).isSuffix
  obtain ⟨a, rfl⟩ := (branch_places hplaces _ _ _ _ hfirst).isSuffix
  have htakes := (openTag?_opens (by decide) hopen).2.1
  have hsuffix := htakes.isSuffix.trans hs
  have hsuffix₁ := (List.suffix_append a _).trans hsuffix
  have hsuffix₂ := (List.suffix_append b _).trans hsuffix₁
  have hlen : (a ++ (b ++ (c ++ (d ++ t)))).length ≤ m := by
    have hlen := htakes.length_lt
    simp only [List.length_append] at hlen hm ⊢
    omega
  have hlen₁ : (b ++ (c ++ (d ++ t))).length ≤ m := (List.suffix_append a _).length_le.trans hlen
  have hlen₂ : (c ++ (d ++ t)).length ≤ m := (List.suffix_append b _).length_le.trans hlen₁
  have hparts : ∀ part ∈ inside :: (more.map (·.2) ++ last.toList), Fits taken q t part :=
    fun _ hpart => hfits.part hpart
  obtain ⟨hfitsFirst, hparts⟩ := List.forall_mem_cons.mp hparts
  obtain ⟨hfitsMore, hfitsLast⟩ := List.forall_mem_append.mp hparts
  -- the parts are carried over from the last one to the first one
  have hend' := endClause_swap (b := []) (by decide) hend (p ++ t) t
  obtain ⟨e, hendif⟩ := endClause_opens hend
  obtain ⟨e', hendif'⟩ := endClause_opens hend'
  obtain ⟨hends₃, hother, hlast'⟩ := otherwise_carried hplaces hc (p ++ t) hlast
    (.of_openTag? (by decide) hendif hendif') (tagWord?_of_openTag? (by decide) hendif') (hmoved.inside d)
    hsuffix₂ (fun part hpart => (hfitsLast part (Option.mem_toList.mpr hpart)).inside d) hlen₂
  obtain ⟨hends₂, hmore'⟩ := furtherBranches_carried hplaces hc (p ++ t)
    (k := (b ++ (c ++ (d ++ t))).length) hmore hends₃ hother ((hmoved.inside d).inside c) hsuffix₁
    (fun branch hbranch => ((hfitsMore _ (List.mem_map_of_mem hbranch)).inside d).inside c) hlen₁
    (by rw [List.length_append]; omega)
  obtain ⟨hfirm, hfirst'⟩ := branch_carried hplaces hc (p ++ t) hfirst hends₂
    (((hmoved.inside d).inside c).inside b) hsuffix (((hfitsFirst.inside d).inside c).inside b) hlen
  have hopen' : openTag? "if" (p ++ t) = some (a ++ (b ++ (c ++ (d ++ t)))) := by
    simp only [← List.append_assoc] at hopen ⊢
    exact openTag?_swap (by decide) hopen (((hfirm.append b).append c).append d) t
  refine conditional_eq_ok_iff.mpr ⟨_, _, _, _, t, hopen', hfirst', hmore', hlast', hend', ?_⟩
  rw [← hmoved p hs]
  rfl

omit hplaces in
/-- Content behind a tag and in front of the clause that ends it. -/
theorem inside_carried {word : String} (hword : word ∈ closingWords) {directive : Directive} {start c d : List Char}
    (start' : List Char) {found : Content} (h : content names (c ++ (d ++ q)) = .ok ⟨found, names', d ++ q⟩)
    (hend : endClause word directive start (d ++ q) = .ok q) (hmoved : Moved f S S' q t)
    (hs : c ++ (d ++ q) <:+ S) (hfits : Fits taken q t found) (hm : (c ++ (d ++ t)).length ≤ m) :
    content' (names ++ taken) (c ++ (d ++ t)) = .ok ⟨Content.mapPositions f found, names' ++ taken, d ++ t⟩ ∧
      endClause word directive start' (d ++ t) = .ok t := by
  have hend' := endClause_swap (b := []) (closingWords_keywords word hword) hend start' t
  obtain ⟨r, hclause⟩ := endClause_opens hend
  obtain ⟨r', hclause'⟩ := endClause_opens hend'
  exact ⟨hc c _ _ _ _ _ h (.of_openTag? hword hclause hclause') (hmoved.inside d) hs (hfits.inside d) hm, hend'⟩

/-- The block's name is new in the other source as well. -/
theorem block_carried {position : Position} {name : String} {found : Content}
    (h : block S content names (p ++ q) = .ok ⟨⟨position, name, found⟩, names', q⟩)
    (hmoved : Moved f S S' q t) (hs : p ++ q <:+ S) (hname : name ∉ taken) (hfits : Fits taken q t found)
    (hm : (p ++ t).length ≤ m + 1) :
    block S' content' (names ++ taken) (p ++ t) =
      .ok ⟨⟨f position, name, Content.mapPositions f found⟩, names' ++ taken, t⟩ := by
  obtain ⟨r, _, r', r'', body, rest, hopen, hread, hclose, hnew, hbody, hend, heq⟩ := block_eq_ok_iff.mp h
  obtain ⟨body, names'', r₃⟩ := body
  obtain ⟨hoverride, rfl, rfl⟩ := Read.mk.inj heq.symm
  obtain ⟨rfl, rfl, rfl⟩ := Override.mk.inj hoverride
  obtain ⟨d, rfl⟩ := (endClause_takes (by decide) hend).isSuffix
  obtain ⟨c, rfl⟩ := (hplaces _ _ _ hbody).isSuffix
  have htakes : Takes (p ++ q) (c ++ (d ++ q)) := ((openTag?_opens (by decide) hopen).2.1.trans
    (identifier?_takes hread).2).suffix (closeTag_isSuffix hclose)
  obtain ⟨hbody', hend'⟩ := inside_carried hc (by decide) (p ++ t) hbody hend hmoved
    (htakes.isSuffix.trans hs) hfits (length_le_of_takes htakes hm)
  have hplace := hmoved p hs
  have hfront : c ++ d ++ q <:+ p ++ q := by
    rw [List.append_assoc]
    exact htakes.isSuffix
  obtain ⟨p, rfl⟩ := exists_front hfront
  simp only [List.append_assoc] at hopen hclose hplace hend' ⊢
  obtain ⟨r₄, r₅, hopen', hread', hclose'⟩ := blockTag_swap hopen hread hclose (p ++ (c ++ (d ++ t))) (c ++ (d ++ t))
  have hnew' : name ∉ names ++ taken := fun hmem => (List.mem_append.mp hmem).elim hnew hname
  refine block_eq_ok_iff.mpr ⟨r₄, name, r₅, _, _, t, hopen', hread', hclose', hnew', hbody', hend', ?_⟩
  rw [hplace]

theorem loop_carried {node : Node} (h : loop S content names (p ++ q) = .ok ⟨node, names', q⟩)
    (hmoved : Moved f S S' q t) (hs : p ++ q <:+ S) (hfits : Fits taken q t [node])
    (hm : (p ++ t).length ≤ m + 1) :
    loop S' content' (names ++ taken) (p ++ t) = .ok ⟨node.mapPositions f, names' ++ taken, t⟩ := by
  obtain ⟨r₁, target, r₂, r₃, collection, r₄, filters, r₅, r₆, body, rest, hopen, htarget, hin, hcollection,
    hfilters, hclose, hbody, hend, heq⟩ := loop_eq_ok_iff.mp h
  obtain ⟨body, names'', r₇⟩ := body
  obtain ⟨rfl, rfl, rfl⟩ := Read.mk.inj heq.symm
  obtain ⟨d, rfl⟩ := (endClause_takes (by decide) hend).isSuffix
  obtain ⟨c, rfl⟩ := (hplaces _ _ _ hbody).isSuffix
  have htakes : Takes (p ++ q) (c ++ (d ++ q)) := (openTag?_opens (by decide) hopen).2.1.suffix
    ((closeTag_isSuffix hclose).trans ((loopFilters_yields hfilters).isSuffix.trans
      ((expression_yields _ _ _ hcollection).2.1.isSuffix.trans
        ((keyword?_takes (by decide) hin).1.isSuffix.trans (loopTarget_yields htarget).2.1.isSuffix))))
  obtain ⟨hbody', hend'⟩ := inside_carried hc (by decide) (p ++ t) hbody hend hmoved
    (htakes.isSuffix.trans hs) (hfits.part (List.mem_singleton.mpr rfl)) (length_le_of_takes htakes hm)
  have hplace := hmoved p hs
  have hfront : c ++ d ++ q <:+ p ++ q := by
    rw [List.append_assoc]
    exact htakes.isSuffix
  obtain ⟨p, rfl⟩ := exists_front hfront
  simp only [List.append_assoc] at hopen htarget hfilters hclose hplace hend' ⊢
  obtain ⟨r₁', r₂', r₃', r₄', r₅', hopen', htarget', hin', hcollection', hfilters', hclose'⟩ :=
    loopTag_swap hopen htarget hin hcollection hfilters hclose (p ++ (c ++ (d ++ t))) (c ++ (d ++ t))
  refine loop_eq_ok_iff.mpr ⟨r₁', target, r₂', r₃', collection, r₄', filters, r₅', _, _, t, hopen', htarget',
    hin', hcollection', hfilters', hclose', hbody', hend', ?_⟩
  rw [← hplace]
  rfl

omit hc in
theorem block_takes {s : List Char} {read : Read Override} (h : block S content names s = .ok read) :
    Takes s read.rest := by
  obtain ⟨name, r, body, rest, -, -, -, htakes, hbody, hend, rfl⟩ := block_yields h
  exact (htakes.suffix (hplaces _ _ _ hbody).isSuffix).trans hend

omit hc in
theorem statement_takes {s : List Char} {read : Read Node} (h : statement S content names s = .ok read) :
    Takes s read.rest := by
  rcases statement_eq_ok_iff.mp h with
    ⟨-, o, ho, rfl⟩ | ⟨-, node, rest, hnode, rfl⟩ | ⟨-, h⟩ | ⟨-, h⟩ | ⟨-, node, rest, hnode, rfl⟩
  · exact block_takes hplaces ho
  · obtain ⟨name, -, htakes, -⟩ := inclusion_yields hnode
    exact htakes
  · obtain ⟨target, collection, filters, r, body, rest, -, -, -, -, htakes, hbody, hend, rfl⟩ := loop_yields h
    exact (htakes.suffix (hplaces _ _ _ hbody).isSuffix).trans hend
  · obtain ⟨r, first, more, last, rest, -, htakes, hfirst, hmore, hlast, hend, rfl⟩ := conditional_yields h
    exact (htakes.suffix ((otherwise_places hplaces _ _ _ _ hlast).isSuffix.trans
      ((furtherBranches_places hplaces _ _ _ _ _ hmore).isSuffix.trans
        (branch_places hplaces _ _ _ _ hfirst).isSuffix))).trans hend
  · obtain ⟨name, e, -, -, -, htakes, -⟩ := assignment_yields hnode
    exact htakes

theorem statement_carried {node : Node} (h : statement S content names (p ++ q) = .ok ⟨node, names', q⟩)
    (hmoved : Moved f S S' q t) (hs : p ++ q <:+ S) (hfits : Fits taken q t [node])
    (hm : (p ++ t).length ≤ m + 1) :
    statement S' content' (names ++ taken) (p ++ t) = .ok ⟨node.mapPositions f, names' ++ taken, t⟩ := by
  rcases statement_eq_ok_iff.mp h with
    ⟨-, o, ho, heq⟩ | ⟨-, node, rest, hnode, heq⟩ | ⟨-, h⟩ | ⟨-, h⟩ | ⟨-, node, rest, hnode, heq⟩
  · obtain ⟨⟨position, name, found⟩, names₁, rest⟩ := o
    obtain ⟨rfl, rfl, rfl⟩ := Read.mk.inj heq.symm
    have hname : name ∉ taken := by
      refine hfits.blocks name (mem_blockNames.mpr ⟨_, List.mem_singleton.mpr rfl, ?_⟩)
      rw [Node.blockNames]
      exact List.mem_cons_self ..
    have h' := block_carried hplaces hc ho hmoved hs hname (hfits.part (List.mem_singleton.mpr rfl)) hm
    obtain ⟨r, _, _, _, _, _, hopen, -⟩ := block_eq_ok_iff.mp h'
    exact statement_eq_ok_iff.mpr (.inl ⟨tagWord?_of_openTag? (by decide) hopen, _, h', rfl⟩)
  · obtain ⟨rfl, rfl, rfl⟩ := Read.mk.inj heq.symm
    obtain ⟨name, rfl, h'⟩ := inclusion_swap (b := []) hnode S' t
    obtain ⟨r, _, _, hopen, -⟩ := inclusion_eq_ok_iff.mp h'
    refine statement_eq_ok_iff.mpr (.inr (.inl ⟨tagWord?_of_openTag? (by decide) hopen, _, _, h', ?_⟩))
    rw [← hmoved p hs]
    rfl
  · have h' := loop_carried hplaces hc h hmoved hs hfits hm
    obtain ⟨r, _, _, _, _, _, _, _, _, _, _, hopen, -⟩ := loop_eq_ok_iff.mp h'
    exact statement_eq_ok_iff.mpr (.inr (.inr (.inl ⟨tagWord?_of_openTag? (by decide) hopen, h'⟩)))
  · have h' := conditional_carried hplaces hc h hmoved hs hfits hm
    obtain ⟨r, _, _, _, _, hopen, -⟩ := conditional_eq_ok_iff.mp h'
    exact statement_eq_ok_iff.mpr (.inr (.inr (.inr (.inl ⟨tagWord?_of_openTag? (by decide) hopen, h'⟩))))
  · obtain ⟨rfl, rfl, rfl⟩ := Read.mk.inj heq.symm
    obtain ⟨name, e, rfl, h'⟩ := assignment_swap (b := []) hnode S' t
    obtain ⟨r, _, _, _, _, _, hopen, -⟩ := assignment_eq_ok_iff.mp h'
    refine statement_eq_ok_iff.mpr
      (.inr (.inr (.inr (.inr ⟨tagWord?_of_openTag? (by decide) hopen, _, _, h', ?_⟩))))
    rw [← hmoved p hs]
    rfl

end Rules

theorem output_ne_text {s rest : List Char} {node : Node} (h : output S s = .ok (node, rest)) (x : String) :
    node ≠ .text x := by
  obtain ⟨e, r, -, -, rfl⟩ := output_eq_ok_iff.mp h
  exact nofun

/-- No statement is text. -/
theorem statement_ne_text {content : Statement Content} {names : List String} {s : List Char} {read : Read Node}
    (h : statement S content names s = .ok read) (x : String) : read.found ≠ .text x := by
  rcases statement_eq_ok_iff.mp h with
    ⟨-, o, -, rfl⟩ | ⟨-, node, rest, hnode, rfl⟩ | ⟨-, h⟩ | ⟨-, h⟩ | ⟨-, node, rest, hnode, rfl⟩
  · exact nofun
  · obtain ⟨name, -, -, rfl⟩ := inclusion_yields hnode
    exact nofun
  · obtain ⟨_, _, _, _, _, _, -, -, -, -, -, -, -, rfl⟩ := loop_yields h
    exact nofun
  · obtain ⟨_, _, _, _, _, -, -, -, -, -, -, rfl⟩ := conditional_yields h
    exact nofun
  · obtain ⟨name, e, -, -, -, -, rfl⟩ := assignment_yields hnode
    exact nofun

end TemplateEngine.Grammar
