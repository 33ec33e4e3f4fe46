/-
  TemplateEngine.Proofs.Document.Stray — what stands behind the blocks of a template with a
  parent.

  Blocks are read one after the other up to the end of the source. With more text behind
  them they are read as before, as long as no comment mark in their text finds its end
  there. What follows them, behind spacing, is then the next thing to read: another block,
  or something that may not stand there.

  Proved:
  - `overrides_stray`: blocks in front of something that is no block.
  - `parse_stray`: a template with a parent, in front of something that is no block.
-/

import TemplateEngine.Proofs.Blame.Sources
import TemplateEngine.Proofs.Locality.Content

namespace TemplateEngine

namespace Grammar

open Scan TemplateEngine.Except

variable {f : Position → Position} {S S' s t stray : List Char} {taken : List String}

/-- The word of a tag is that of the directive that it opens. -/
theorem tagWord?_iff_opens {word : String} (hword : isKeyword word = true) :
    tagWord? s = some word ↔ Opens word s := by
  constructor
  · intro h
    obtain ⟨r, rfl⟩ := mark?_of_tagWord? h
    obtain ⟨-, w, hw, hr⟩ := spacing_skipSpacing r
    have hmark : mark? "\x7b%" ('\x7b' :: '%' :: r) = some r := rfl
    simp only [tagWord?, hmark] at h
    obtain ⟨-, hread⟩ := Option.ite_none_left_eq_some.mp h
    obtain rfl := Option.some.inj hread
    refine ⟨w, (skipSpacing r).dropWhile isLetterOrDigit, hw, stops_dropWhile, ?_⟩
    rw [String.toList_ofList, List.takeWhile_append_dropWhile, ← hr]
  · rintro ⟨w, t, hw, ht, rfl⟩
    have hread := keyword?_append hword ht
    rw [← skipSpacing_of_unspaced (unspaced_keyword hword t), ← skipSpacing_append hw] at hread
    exact tagWord?_of_openTag? hword (openTag?_eq_some_iff.mpr ⟨_, rfl, hread⟩)

/-- What the rule for content reads in one source, it reads in another. -/
theorem content_carries (m : Nat) : Carries f S S' taken m (content S) (content S') := by
  intro p q t names found names' h hclause hmoved hs hfits _
  have hcarried := contentUpTo_carried h hmoved hs hfits (fun _ => .inr hclause.brace)
    (fun k _ => contentUpTo_atClause hclause k _) (Nat.le_refl (p ++ t).length)
  rwa [joined_nil] at hcarried

/-- A block that is read in one source is read with more text behind that source. -/
theorem block_append {p : List Char} {names : List String} {read : Read Override}
    (h : block S (content S) names p = .ok read) (hp : p <:+ S)
    (hcomment : ∀ text : String, Occurs (.text text) read.found.content → Uncommented text.toList)
    (t : List Char) :
    block (S ++ t) (content (S ++ t)) names (p ++ t) = .ok ⟨read.found, read.names, read.rest ++ t⟩ := by
  obtain ⟨⟨position, name, found⟩, names', q⟩ := read
  obtain ⟨p, rfl⟩ := (block_places (content_places S) _ _ _ h).isSuffix
  have hfits : Fits [] q (q ++ t) found := ⟨.inr hcomment, fun _ _ => List.not_mem_nil⟩
  have hcarried := block_carried (content_places S) (content_carries _) h (moved_append S q t) hp List.not_mem_nil
    hfits (Nat.le_succ _)
  simpa [mapPositions_id] using hcarried

/-! ## Behind the blocks -/

theorem overrides_no_block (hstray : stray ≠ []) (hblock : tagWord? stray ≠ some "block")
    (hskip : skipSpacing s = stray) (n : Nat) (names : List String) :
    overrides S (n + 1) names s = .error (onlyBlocks stray) := by
  simp [overrides, hskip, hstray, hblock]

theorem overrides_block {names : List String} {first : Read Override}
    (h : block S (content S) names (skipSpacing s) = .ok first) (n : Nat) :
    overrides S (n + 1) names s = (overrides S n first.names first.rest).map (first.found :: ·) := by
  obtain ⟨r, _, _, _, _, _, hopen, -⟩ := block_eq_ok_iff.mp h
  have hword := tagWord?_of_openTag? (by decide) hopen
  have hne : skipSpacing s ≠ [] := fun hnil => by rw [hnil] at hword; cases hword
  rw [overrides]
  simp only [List.isEmpty_iff, hne, hword, h, if_false, if_true, ok_bind]
  rfl

/-- Blocks up to the end of their source, and behind it spacing and something else. They are
    read again, and that is what cannot be read. -/
theorem overrides_stray {n m : Nat} {names : List String} {p : List Char} {found : List Override}
    (h : overrides S n names p = .ok found) (hn : p.length < n) (hp : p <:+ S)
    (hcomment : ∀ o ∈ found, ∀ text : String, Occurs (.text text) o.content → Uncommented text.toList)
    (hskip : skipSpacing t = stray) (hstray : stray ≠ []) (hblock : tagWord? stray ≠ some "block")
    (hm : (p ++ t).length < m) : overrides (S ++ t) m names (p ++ t) = .error (onlyBlocks stray) := by
  induction n generalizing names p found m with
  | zero => exact absurd hn (Nat.not_lt_zero _)
  | succ n ih =>
    obtain ⟨m, rfl⟩ := Nat.exists_eq_add_one_of_ne_zero (Nat.ne_zero_of_lt hm)
    rcases (overrides_succ_iff S).mp h with ⟨hend, -⟩ | ⟨-, first, more, hfirst, hmore, rfl⟩
    · have hspacing : skipSpacing (p ++ []) = [] ++ [] := by rwa [List.append_nil]
      exact overrides_no_block hstray hblock ((skipSpacing_swap hspacing t).trans hskip) m names
    · obtain ⟨hcommentFirst, hcommentMore⟩ := List.forall_mem_cons.mp hcomment
      have hfirst' := block_append hfirst ((skipSpacing_isSuffix p).trans hp) hcommentFirst t
      obtain ⟨b, c, rfl, hc, hfirm, hlen, hskipped⟩ := piece_of_skipped (block_takes (content_places S) hfirst)
      have hpiece := List.length_pos_of_ne_nil hfirm.ne_nil
      rw [hc, List.append_assoc, ← hskipped, ← List.append_assoc] at hfirst'
      have hmore' := ih hmore (m := m) ?_ ((List.suffix_append b _).trans hp) hcommentMore ?_
      · rw [overrides_block hfirst', hmore']
        rfl
      all_goals simp only [List.length_append] at hn hm ⊢; omega

theorem document_stray {position : Position} {parent : String} {blocks : List Override}
    (h : document s = .ok (.extending position parent blocks))
    (hcomment : ∀ o ∈ blocks, ∀ text : String, Occurs (.text text) o.content → Uncommented text.toList)
    (hskip : skipSpacing t = stray) (hstray : stray ≠ []) (hblock : tagWord? stray ≠ some "block") :
    document (s ++ t) = .error (onlyBlocks stray) := by
  rcases (document_eq_ok_iff s).mp h with
    ⟨-, r, _, r', q, _, hopen, hname, hclose, hfound, heq⟩ | ⟨-, _, -, -, heq⟩
  · obtain ⟨-, rfl, rfl⟩ := Document.extending.inj heq
    obtain ⟨-, htakes, -⟩ := openTag?_opens (by decide) hopen
    -- the tag that names the parent, in front of the blocks
    obtain ⟨b, rfl⟩ := closeTag_isSuffix hclose
    obtain ⟨name, hfirm, -, rfl, -⟩ := string?_takes hname
    rw [← List.append_assoc] at htakes hopen hname
    obtain ⟨w, a, rfl, ha, -, -, hskipped⟩ := piece_of_skipped htakes.append
    rw [ha] at hopen hclose
    have hopen' := openTag?_swap (by decide) hopen (hfirm.append b) (q ++ t)
    have hname' := string?_swap hname (q ++ t)
    have hclose' := closeTag_swap (b := []) hclose (a ++ (q ++ t)) (q ++ t)
    have hblocks := overrides_stray hfound (Nat.lt_succ_self _) (List.suffix_append w q) hcomment hskip hstray
      hblock (Nat.lt_succ_self _)
    rw [List.append_assoc] at hblocks ⊢
    rw [document, hskipped]
    simp only [tagWord?_of_openTag? (by decide) hopen', if_true, extending, openTag_eq_ok_iff.mpr hopen', ok_bind,
      templateName_eq_ok_iff.mpr hname', hclose', List.nil_append, hblocks]
    rfl
  · cases heq

end Grammar

open Grammar

/-- Behind a template with a parent, spacing and then something that is no block. The error
    is at the place of that, whatever it is, and shows what stands in the rest of its line. No
    comment may open in a text of the template, for it could be closed by what follows. -/
theorem parse_stray {s t : String} {position : Position} {parent : String} {blocks : List Override} {c : Char}
    {rest : List Char} (h : Document.parse s = .ok (.extending position parent blocks))
    (hcomment : ∀ o ∈ blocks, ∀ text : String, Occurs (.text text) o.content →
      ¬ "\x7b#".toList <:+: text.toList)
    (hstray : Scan.skipSpacing t.toList = c :: rest) (hblock : ¬ Opens "block" (c :: rest)) :
    ∃ w line, Scan.Spacing w ∧ t.toList = w ++ c :: rest ∧ FirstLine line (c :: rest) ∧
      Document.parse (s ++ t) = .error
        { kind := .extendMayOnlyBlocks, position := Position.after (s.toList ++ w),
          snippet := String.ofList (line.take 40) } := by
  obtain ⟨-, w, hw, ht⟩ := Scan.spacing_skipSpacing t.toList
  rw [hstray] at ht
  have hread := document_stray (Document.parse_eq_ok_iff.mp h) hcomment hstray (List.cons_ne_nil c rest)
    (mt (tagWord?_iff_opens (by decide)).mp hblock)
  refine ⟨w, firstLine (c :: rest), hw, ht, firstLine_spec _, ?_⟩
  rw [Document.parse, String.toList_append, hread, ht, ← List.append_assoc, ← Position.before_append]
  rfl

/-- A closing tag that nothing has opened, behind a comment and a line feed. -/
theorem parse_stray_closer :
    Document.parse ("\x7b% extends 'a' %\x7d\x7b% block b %\x7dx\x7b% endblock %\x7d " ++
        "\x7b# c #\x7d\n\x7b% endblock %\x7d y\r\nz") =
      .error { kind := .extendMayOnlyBlocks, position := ⟨54, 2, 1⟩, snippet := "\x7b% endblock %\x7d y" } := by
  have h : Document.parse "\x7b% extends 'a' %\x7d\x7b% block b %\x7dx\x7b% endblock %\x7d " =
      .ok (.extending ⟨0, 1, 1⟩ "a" [⟨⟨17, 1, 18⟩, "b", [.text "x"]⟩]) := by rfl
  have hcomment : ∀ o ∈ [(⟨⟨17, 1, 18⟩, "b", [.text "x"]⟩ : Override)], ∀ text : String,
      Occurs (.text text) o.content → ¬ "\x7b#".toList <:+: text.toList := by
    intro o ho text hoccurs
    obtain rfl := List.mem_singleton.mp ho
    obtain rfl : text = "x" := by simpa using hoccurs.mem_of_leaves (by simp [Node.contents])
    decide
  have hstray : Scan.skipSpacing "\x7b# c #\x7d\n\x7b% endblock %\x7d y\r\nz".toList =
      '\x7b' :: "% endblock %\x7d y\r\nz".toList := by rfl
  have hblock : ¬ Opens "block" ('\x7b' :: "% endblock %\x7d y\r\nz".toList) :=
    mt (tagWord?_iff_opens (by decide)).mpr (by decide)
  obtain ⟨w, line, -, ht, hline, hparse⟩ := parse_stray h hcomment hstray hblock
  obtain rfl : "\x7b# c #\x7d\n".toList = w := List.append_cancel_right ht
  rw [hparse, ← hline.eq]
  rfl

end TemplateEngine
