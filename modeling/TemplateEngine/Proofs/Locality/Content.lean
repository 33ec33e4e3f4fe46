/-
  TemplateEngine.Proofs.Locality.Content — content in another source, in front of more of it.

  The rule for content is given the text in front of it. It reads the same behind every
  text, with the text ahead of it (`contentUpTo_behind`). So where a piece of content ends
  in front of `q`, reading can go on in front of `t`: what is read is the content of the piece,
  and behind it what is read of `t`. Only at the ends of texts something could be read in
  another way: a brace at the end of the piece, or a comment that `t` closes.

  Proved:
  - `contentUpTo_behind`: content behind a text.
  - `contentUpTo_carried`: a piece of content in another source, with what follows it there.
-/

import TemplateEngine.Proofs.Locality.Statements

namespace TemplateEngine.Grammar

open Scan

variable {f : Position → Position} {S S' : List Char} {taken : List String}

/-! ## Text ahead of content -/

theorem mapPositions_withText (f : Position → Position) (text : List Char) (content : Content) :
    Content.mapPositions f (withText text content) = withText text (Content.mapPositions f content) := by
  unfold withText
  split
  · rfl
  · rw [Content.mapPositions, Node.mapPositions]

theorem joined_withText {node : Node} (hnode : ∀ x, node ≠ .text x) (text : List Char) (a b : Content) :
    (withText text (node :: a)).joined b = withText text (node :: Content.joined a b) := by
  unfold withText
  split
  · exact joined_cons hnode a b
  · rw [joined_cons_cons, joined_cons hnode]

theorem withText_cons (c : Char) (text : List Char) (content : Content) :
    withText (c :: text) content = .text (String.ofList (c :: text).reverse) :: content := rfl

/-- A node that is no text, behind a text and in front of more content. -/
theorem mapped_withText {node : Node} (h : ∀ x, node ≠ .text x) (f : Position → Position) (text : List Char)
    (found more : Content) :
    (Content.mapPositions f (withText text (node :: found))).joined more =
      withText text (node.mapPositions f :: (Content.mapPositions f found).joined more) := by
  rw [mapPositions_withText, Content.mapPositions, joined_withText (mapPositions_ne_text h f)]

/-- Text in two parts, ahead of something that is no text. -/
theorem withText_append (text more : List Char) {content : Content}
    (h : ∀ x, content.head? ≠ some (.text x)) :
    withText (more ++ text) content = (withText text []).joined (withText more content) := by
  cases text with
  | nil => rw [List.append_nil]; rfl
  | cons c text =>
    cases more with
    | nil =>
      rw [List.nil_append, withText_cons, withText_cons]
      show _ = Content.joined [.text _] content
      rw [Content.joined]
      · rfl
      · rintro _ y rest rfl _ _
        exact h y rfl
    | cons d more =>
      rw [List.cons_append, withText_cons, withText_cons, withText_cons, Content.joined, ← String.ofList_append,
        ← List.reverse_append]
      rfl

theorem withText_append_nil (text more : List Char) :
    withText (more ++ text) [] = (withText text []).joined (withText more []) :=
  withText_append text more fun _ h => nomatch h

theorem withText_append_cons (text more : List Char) {node : Node} (h : ∀ x, node ≠ .text x) (rest : Content) :
    withText (more ++ text) (node :: rest) = (withText text []).joined (withText more (node :: rest)) :=
  withText_append text more fun x hx => h x (Option.some.inj hx)

/-- What is read behind a text is what is read without it, with the text ahead. -/
theorem contentUpTo_behind (text more : List Char) {n : Nat} {names names' : List String} {s rest : List Char}
    {found : Content} (h : contentUpTo S n more names s = .ok ⟨found, names', rest⟩) :
    contentUpTo S n (more ++ text) names s = .ok ⟨(withText text []).joined found, names', rest⟩ := by
  induction n generalizing more names s found with
  | zero =>
    cases h
    rw [← withText_append_nil]
    rfl
  | succ n ih =>
    rw [contentUpTo_succ_iff] at h ⊢
    cases h with
    | source =>
      rw [← withText_append_nil]
      exact .source
    | closing hword hmem =>
      rw [← withText_append_nil]
      exact .closing hword hmem
    | output hmark hnode hmore =>
      rw [← withText_append_cons text more (output_ne_text hnode)]
      exact .output hmark hnode hmore
    | statement hnode hmore =>
      rw [← withText_append_cons text more (statement_ne_text hnode)]
      exact .statement hnode hmore
    | verbatim hword hbody hread =>
      refine .verbatim hword hbody ?_
      rw [← List.append_assoc]
      exact ih _ hread
    | comment hcomment hread => exact .comment hcomment (ih _ hread)
    | char hmark hread => exact .char hmark (ih _ hread)

theorem withText_occurs {text : List Char} (h : text ≠ []) (content : Content) :
    ∃ x : String, Occurs (.text x) (withText text content) ∧ text.reverse <:+: x.toList := by
  obtain ⟨c, text, rfl⟩ := List.exists_cons_of_ne_nil h
  refine ⟨String.ofList (c :: text).reverse, .here (List.mem_cons_self ..), ?_⟩
  rw [String.toList_ofList]

/-- The text in front of what is read is a part of the text of a node. -/
theorem contentUpTo_occurs {n : Nat} {text : List Char} {names : List String} {s : List Char} {read : Read Content}
    (h : contentUpTo S n text names s = .ok read) (htext : text ≠ []) :
    ∃ x : String, Occurs (.text x) read.found ∧ text.reverse <:+: x.toList := by
  induction n generalizing text names s read with
  | zero => cases h; exact withText_occurs htext []
  | succ n ih =>
    cases (contentUpTo_succ_iff S).mp h with
    | source | closing | output | statement => exact withText_occurs htext _
    | verbatim _ _ hread =>
      obtain ⟨x, hx, hinside⟩ := ih hread (by simp [htext])
      rw [List.reverse_append] at hinside
      exact ⟨x, hx, (List.prefix_append _ _).isInfix.trans hinside⟩
    | comment _ hread => exact ih hread htext
    | char _ hread =>
      obtain ⟨x, hx, hinside⟩ := ih hread (List.cons_ne_nil _ _)
      rw [List.reverse_cons] at hinside
      exact ⟨x, hx, (List.prefix_append _ _).isInfix.trans hinside⟩

theorem Uncommented.mono {text more : List Char} (h : Uncommented more) (hinside : text <:+: more) :
    Uncommented text := fun hcomment => h (hcomment.trans hinside)

/-- No comment opens in the text in front of what is read. -/
theorem Fits.uncommented {n : Nat} {text : List Char} {names : List String} {s q t : List Char}
    {read : Read Content} (hfits : Fits taken q t read.found) (h : contentUpTo S n text names s = .ok read) :
    q = t ∨ Uncommented text.reverse := by
  by_cases htext : text = []
  · right
    rw [htext]
    exact fun hinside => absurd hinside (by decide)
  · obtain ⟨x, hx, hinside⟩ := contentUpTo_occurs h htext
    exact hfits.text.imp id fun hplain => (hplain x hx).mono hinside

/-! ## One step -/

theorem unmarked_swap {c : Char} {p q t : List Char} (h : Unmarked (c :: (p ++ q)))
    (hbrace : ['\x7b'] <:+ c :: p → q = t ∨ q.head? = some '\x7b')
    (hcomment : c = '\x7b' → p.head? = some '#' → q = t) : Unmarked (c :: (p ++ t)) := by
  by_cases hqt : q = t
  · exact hqt ▸ h
  by_cases hc : c = '\x7b'
  · subst hc
    cases p with
    | nil =>
      have hq := (hbrace (List.suffix_refl _)).resolve_left hqt
      obtain ⟨q, rfl⟩ := List.head?_eq_some_iff.mp hq
      have hmark : mark? "\x7b\x7b" ('\x7b' :: '\x7b' :: q) = none := h.output
      cases hmark
    | cons d p =>
      have hd : d ≠ '#' := fun hd => hqt (hcomment rfl (congrArg some hd))
      refine ⟨mark?_swap (p := '\x7b' :: d :: p) (by simp) t h.output,
        mark?_swap (p := '\x7b' :: d :: p) (by simp) t h.statement, ?_⟩
      exact (Firm.brace hd p t).notComment
  · exact unmarked_char hc _

theorem contentUpTo_atClause {q t : List Char} (h : AtClause q t) (n : Nat) (names : List String) :
    contentUpTo S n [] names t = .ok ⟨[], names, t⟩ := by
  obtain ⟨word, hmem, hword⟩ := h.word
  cases n with
  | zero => rfl
  | succ n => exact (contentUpTo_succ_iff S).mpr (.closing hword hmem)

theorem comment?_isSuffix {s rest : List Char} (h : comment? s = some rest) : rest <:+ s := by
  obtain ⟨body, -, rfl⟩ := comment?_eq_some_iff.mp h
  exact ⟨'\x7b' :: '#' :: (body ++ ['#', '\x7d']), by simp⟩

theorem comment?_swap {p q b : List Char} (h : comment? (p ++ q) = some (b ++ q)) (t : List Char) :
    comment? (p ++ t) = some (b ++ t) := by
  obtain ⟨body, hbody, hp⟩ := comment?_eq_some_iff.mp h
  have hp : p ++ q = ('\x7b' :: '#' :: (body ++ '#' :: '\x7d' :: b)) ++ q := by simpa using hp
  obtain rfl := List.append_cancel_right hp
  exact comment?_eq_some_iff.mpr ⟨body, hbody, by simp⟩

theorem Fits.behindText {text : List Char} {node : Node} {more : Content} {q t : List Char}
    (h : Fits taken q t (withText text (node :: more))) : Fits taken q t [node] ∧ Fits taken q t more := by
  have hmem : ∀ x ∈ node :: more, x ∈ withText text (node :: more) := by
    intro x hx
    unfold withText
    split
    · exact hx
    · exact List.mem_cons_of_mem _ hx
  refine ⟨h.sublist fun x hx => hmem x ?_, h.sublist fun x hx => hmem x (List.mem_cons_of_mem _ hx)⟩
  rw [List.mem_singleton.mp hx]
  exact List.mem_cons_self ..

/-- The mark of a comment that is read as text. -/
theorem uncommented_of_mark {n : Nat} {text p q t : List Char} {names names' : List String} {found : Content}
    (h : contentUpTo S n ('\x7b' :: text) names ('#' :: p ++ q) = .ok ⟨found, names', q⟩)
    (hfits : Fits taken q t found) : q = t := by
  cases n with
  | zero =>
    have hrest : '#' :: p ++ q = q := (Read.mk.inj (Except.ok.inj h)).2.2
    exact absurd (List.append_left_eq_self.mp hrest) (List.cons_ne_nil _ _)
  | succ n =>
    have hread : contentUpTo S n ('#' :: '\x7b' :: text) names (p ++ q) = .ok ⟨found, names', q⟩ := by
      rw [← h]
      exact (contentUpTo_unmarked S (unmarked_char (by decide) _) n _ names).symm
    refine (hfits.uncommented hread).resolve_right fun htext => htext ?_
    rw [List.reverse_cons, List.reverse_cons, List.append_assoc]
    exact (List.suffix_append text.reverse ['\x7b', '#']).isInfix

/-! ## A piece of content

What is read in one step in front of `q` is read in one step in front of `t`, if what is left
of the piece is read there with what follows it. -/

section Steps

variable {n k : Nat} {p q t b text rest : List Char} {names names' names'' : List String} {found more : Content}

theorem step_output (hmoved : Moved f S S' q t) (hs : p ++ q <:+ S) {node : Node}
    (hmark : (mark? "\x7b\x7b" (p ++ q)).isSome) (hnode : output S (p ++ q) = .ok (node, b ++ q))
    (hnext : contentUpTo S' k [] (names ++ taken) (b ++ t) =
      .ok ⟨(Content.mapPositions f found).joined more, names'', rest⟩) :
    Step S' k text (names ++ taken) (p ++ t)
      ⟨(Content.mapPositions f (withText text (node :: found))).joined more, names'', rest⟩ := by
  rw [mapped_withText (output_ne_text hnode)]
  obtain ⟨hmark', e, rfl, hnode'⟩ := output_swap hmark hnode S' t
  rw [Node.mapPositions, hmoved p hs]
  exact .output hmark' hnode' hnext

theorem step_statement (hmoved : Moved f S S' q t) (hs : p ++ q <:+ S) {node : Node}
    (hcarries : Carries f S S' taken k (contentUpTo S n []) (contentUpTo S' k []))
    (hnode : statement S (contentUpTo S n []) names (p ++ q) = .ok ⟨node, names', b ++ q⟩)
    (hfits : Fits taken q t [node]) (hk : (p ++ t).length ≤ k + 1)
    (hnext : contentUpTo S' k [] (names' ++ taken) (b ++ t) =
      .ok ⟨(Content.mapPositions f found).joined more, names'', rest⟩) :
    Step S' k text (names ++ taken) (p ++ t)
      ⟨(Content.mapPositions f (withText text (node :: found))).joined more, names'', rest⟩ := by
  rw [mapped_withText (statement_ne_text hnode)]
  obtain ⟨p, rfl⟩ := exists_front (statement_takes (contentUpTo_places S n []) hnode).isSuffix
  rw [List.append_assoc] at hnode hs hk ⊢
  have hnode' := statement_carried (contentUpTo_places S n []) hcarries hnode (hmoved.inside b) hs
    (hfits.inside b) hk
  exact .statement hnode' hnext

theorem step_verbatim {body : List Char} (hbody : verbatim (p ++ q) = .ok (body, b ++ q))
    (htext : q = t ∨ Uncommented (body.reverse ++ text).reverse) {read : Read Content}
    (hnext : contentUpTo S' k (body.reverse ++ text) (names ++ taken) (b ++ t) = .ok read) :
    Step S' k text (names ++ taken) (p ++ t) read := by
  have hbody' : verbatim (p ++ t) = .ok (body, b ++ t) := by
    rcases htext with rfl | htext
    · exact hbody
    · rw [List.reverse_append, List.reverse_reverse] at htext
      exact verbatim_swap hbody (htext.mono (List.suffix_append _ _).isInfix) t
  obtain ⟨r, -, -, -, hopen, -⟩ := verbatim_eq_ok_iff.mp hbody'
  exact .verbatim (tagWord?_of_openTag? (by decide) hopen) hbody' hnext

end Steps

/-- A piece of content that ends in front of `q`, in another source in front of `t`. What is read
    there is the content of the piece and what is read of `t` behind it. -/
theorem contentUpTo_carried {n : Nat} {p q t text rest : List Char} {names names' names'' : List String}
    {found more : Content} (h : contentUpTo S n text names (p ++ q) = .ok ⟨found, names', q⟩)
    (hmoved : Moved f S S' q t) (hs : p ++ q <:+ S) (hfits : Fits taken q t found)
    (hbrace : ['\x7b'] <:+ p → q = t ∨ q.head? = some '\x7b')
    (hmore : ∀ k, t.length ≤ k → contentUpTo S' k [] (names' ++ taken) t = .ok ⟨more, names'', rest⟩)
    {m : Nat} (hm : (p ++ t).length ≤ m) :
    contentUpTo S' m text (names ++ taken) (p ++ t) =
      .ok ⟨(Content.mapPositions f found).joined more, names'', rest⟩ := by
  induction n generalizing p q t text rest names names' names'' found more m with
  | zero =>
    obtain ⟨rfl, rfl, hrest⟩ := Read.mk.inj (Except.ok.inj h)
    obtain rfl := List.append_left_eq_self.mp hrest
    rw [mapPositions_withText]
    exact contentUpTo_behind text [] (hmore m hm)
  | succ n ih =>
    generalize hs' : p ++ q = s at h
    generalize hread : (⟨found, names', q⟩ : Read Content) = read at h
    -- content stops at the end of the piece
    have hstop : ∀ s', s' = s → (⟨found, names', q⟩ : Read Content) = ⟨withText text [], names, s'⟩ →
        contentUpTo S' m text (names ++ taken) (p ++ t) =
          .ok ⟨(Content.mapPositions f found).joined more, names'', rest⟩ := by
      rintro s' rfl hstop
      obtain ⟨rfl, rfl, rfl⟩ := Read.mk.inj hstop
      obtain rfl := List.append_left_eq_self.mp hs'
      rw [mapPositions_withText]
      exact contentUpTo_behind text [] (hmore m hm)
    have hcarries : ∀ m, Carries f S S' taken m (contentUpTo S n []) (contentUpTo S' m []) := by
      intro m p q t names found names' h hclause hmoved hs hfits hm
      have hnested := ih h hmoved hs hfits (fun _ => .inr hclause.brace)
        (fun k _ => contentUpTo_atClause hclause k _) hm
      rwa [joined_nil] at hnested
    -- what is left of the piece behind something that was read in it
    have hlater : ∀ {b text names found}, b ++ q <:+ s → (b ++ q).length < s.length →
        contentUpTo S n text names (b ++ q) = .ok ⟨found, names', q⟩ → Fits taken q t found → ∃ k, m = k + 1 ∧
          contentUpTo S' k text (names ++ taken) (b ++ t) =
            .ok ⟨(Content.mapPositions f found).joined more, names'', rest⟩ := by
      intro b text names found hsuffix hlen hnext hfits
      rw [← hs'] at hsuffix hlen
      obtain ⟨front, hfront⟩ := exists_front hsuffix
      simp only [List.length_append] at hlen hm
      refine ⟨m - 1, by omega, ih hnext hmoved (hsuffix.trans hs) hfits (fun h => hbrace ?_) hmore ?_⟩
      · exact h.trans ⟨front, hfront.symm⟩
      · rw [List.length_append]
        omega
    cases (contentUpTo_succ_iff S).mp h with
    | source => exact hstop [] rfl hread
    | closing => exact hstop _ rfl hread
    | @output _ _ _ found hmark hnode hnext =>
      obtain ⟨found, names₂, r₂⟩ := found
      obtain ⟨rfl, rfl, rfl⟩ := Read.mk.inj hread.symm
      obtain ⟨b, rfl⟩ := (contentUpTo_places S _ _ _ _ _ hnext).isSuffix
      obtain ⟨-, -, -, htakes, -⟩ := output_yields hmark hnode
      obtain ⟨k, rfl, hnext'⟩ := hlater htakes.isSuffix htakes.length_lt hnext hfits.behindText.2
      subst hs'
      exact (contentUpTo_succ_iff S').mpr (step_output hmoved hs hmark hnode hnext')
    | @statement _ node found hnode hnext =>
      obtain ⟨node, names₁, r₁⟩ := node
      obtain ⟨found, names₂, r₂⟩ := found
      obtain ⟨rfl, rfl, rfl⟩ := Read.mk.inj hread.symm
      obtain ⟨b, rfl⟩ := (contentUpTo_places S _ _ _ _ _ hnext).isSuffix
      have htakes := statement_takes (contentUpTo_places S n []) hnode
      obtain ⟨k, rfl, hnext'⟩ := hlater htakes.isSuffix htakes.length_lt hnext hfits.behindText.2
      subst hs'
      exact (contentUpTo_succ_iff S').mpr
        (step_statement hmoved hs (hcarries k) hnode hfits.behindText.1 hm hnext')
    | @verbatim _ body r _ hword hbody hnext =>
      subst hread
      obtain ⟨b, rfl⟩ := (contentUpTo_places S _ _ _ _ _ hnext).isSuffix
      have htakes := verbatim_takes hbody
      obtain ⟨k, rfl, hnext'⟩ := hlater htakes.isSuffix htakes.length_lt hnext hfits
      subst hs'
      exact (contentUpTo_succ_iff S').mpr (step_verbatim hbody (hfits.uncommented hnext) hnext')
    | comment hcomment hnext =>
      subst hread
      obtain ⟨b, rfl⟩ := (contentUpTo_places S _ _ _ _ _ hnext).isSuffix
      have hlen : (b ++ q).length + 4 ≤ s.length := comment?_length hcomment
      obtain ⟨k, rfl, hnext'⟩ := hlater (comment?_isSuffix hcomment) (by omega) hnext hfits
      subst hs'
      exact (contentUpTo_succ_iff S').mpr (.comment (comment?_swap hcomment t) hnext')
    | char hmark hnext =>
      subst hread
      obtain ⟨b, rfl⟩ := (contentUpTo_places S _ _ _ _ _ hnext).isSuffix
      obtain ⟨k, rfl, hnext'⟩ := hlater (List.suffix_cons ..) (Nat.lt_succ_self _) hnext hfits
      rw [← List.cons_append] at hs'
      obtain rfl := List.append_cancel_right hs'
      refine (contentUpTo_succ_iff S').mpr (.char (unmarked_swap hmark hbrace ?_) hnext')
      rintro rfl hhead
      obtain ⟨b, rfl⟩ := List.head?_eq_some_iff.mp hhead
      exact uncommented_of_mark hnext hfits

end TemplateEngine.Grammar
