/-
  TemplateEngine.Proofs.Locality.Tags — tags look no further than their ends.

  The mark that closes a tag ends the expression inside it, though it starts like a
  remainder, and a filter of a loop is no stage, though it starts like one. So a tag is read
  in front of every text as it is in front of one. Where a verbatim statement ends depends
  on the words of the tags in its text, and these on the comments in front of them: no
  comment may open there.

  Proved:
  - `halts_tagEnd`, `halts_filter`: where the expression of a tag ends.
  - `openTag?_swap`, `closeTag_swap`, `endClause_swap`: the parts of a tag, in front of
    another text.
  - `output_swap`, `inclusion_swap`, `assignment_swap`, `verbatim_swap`: the statements
    without content.
  - `blockTag_swap`, `loopTag_swap`: the tags that content follows.
-/

import TemplateEngine.Proofs.Document.Tags
import TemplateEngine.Proofs.Grammar.StatementYield
import TemplateEngine.Proofs.Locality.Expression

namespace TemplateEngine.Grammar

open Scan

variable {S S' start start' p q a b : List Char} {word : String}

/-! ## Behind the expression of a tag -/

/-- The sign of a remainder with a brace behind it closes a tag. -/
theorem halts_tagEnd (q rest : List Char) : Halts q (tagEnd rest) := by
  suffices hsign : Halts q (Operator.remainder.symbol.toList ++ '\x7d' :: rest) from hsign
  refine .sign (fun c hc hletter => ?_) nofun fun _ op after hop => ?_
  · obtain rfl := Option.some.inj hc
    exact absurd hletter (by decide)
  · have hread : operator? Operator.Level.product.operators (tagEnd rest) =
        some (.remainder, skipSpacing ('\x7d' :: rest)) := rfl
    obtain ⟨rfl, rfl⟩ := Prod.mk.inj (Option.some.inj (hread.symm.trans hop))
    rw [skipSpacing_closer rfl]
    exact absent_of_stops (Stops.cons rfl) _

/-- A keyword behind the mark of a stage is no stage. -/
theorem noStage_of_keyword (hword : isKeyword word = true) {s r rest : List Char}
    (hmark : symbol? "|" s = some r) (h : keyword? word r = some rest) : NoStage s := by
  intro after hafter
  obtain rfl := Option.some.inj (hmark.symm.trans hafter)
  obtain ⟨r', rfl, hstop, -⟩ := (keyword?_eq_some_iff hword).mp h
  refine identifier?_keyword ?_
  rw [takeWhile_run (keyword_letters hword) hstop, String.ofList_toList]
  exact hword

theorem halts_filter (q : List Char) {rest : List Char} (hrest : Stops isLetterOrDigit rest) :
    Halts q ('|' :: ' ' :: ("filter".toList ++ rest)) := by
  have hmark := symbol?_append "|" (' ' :: ("filter".toList ++ rest))
  rw [skipSpacing_space rfl, skipSpacing_of_unspaced (unspaced_keyword (by decide) _)] at hmark
  exact .pipe fun _ => noStage_of_keyword (by decide) hmark (keyword?_append (by decide) hrest)

/-! ## The parts of a tag -/

theorem firm_tagEnd (piece : List Char) : Firm (tagEnd piece) := .cons rfl (by decide) _

/-- The mark of a tag and the spacing behind it are parts of the piece that opens the tag. -/
theorem openTag?_piece (hword : isKeyword word = true) (h : openTag? word (p ++ q) = some (a ++ q)) :
    ∃ p' c, p = '\x7b' :: '%' :: p' ∧ skipSpacing (p' ++ q) = c ++ q ∧ Firm c ∧
      keyword? word (c ++ q) = some (a ++ q) := by
  obtain ⟨r, hmark, hread⟩ := openTag?_eq_some_iff.mp h
  obtain ⟨p', c, rfl, hc, hfirm, -, -⟩ := piece_of_skipped (keyword?_takes hword hread).1.append
  have hp : p ++ q = ('\x7b' :: '%' :: p') ++ q := mark?_eq_some_iff.mp hmark
  rw [hc] at hread
  exact ⟨p', c, List.append_cancel_right hp, hc, hfirm, hread⟩

theorem openTag?_swap (hword : isKeyword word = true) (h : openTag? word (p ++ q) = some (a ++ q))
    (ha : Firm a) (t : List Char) : openTag? word (p ++ t) = some (a ++ t) := by
  obtain ⟨p', c, rfl, hskip, hc, hread⟩ := openTag?_piece hword h
  refine openTag?_eq_some_iff.mpr ⟨p' ++ t, rfl, ?_⟩
  rw [skipSpacing_swap hskip t, hc.skipSpacing_append,
    keyword?_swap hword hread (.of_ne_nil ha.ne_nil q t), ha.skipSpacing_append]

section

variable {directive : Directive}

theorem closeTag_swap (h : closeTag directive start (p ++ q) = .ok (b ++ q)) (start' t : List Char) :
    closeTag directive start' (p ++ t) = .ok (b ++ t) := by
  have hskip : skipSpacing (p ++ q) = tagEnd b ++ q := mark?_eq_some_iff.mp (closeTag_eq_ok_iff.mp h)
  refine closeTag_eq_ok_iff.mpr ?_
  rw [skipSpacing_swap hskip t, (firm_tagEnd b).skipSpacing_append]
  rfl

/-- A tag that closes behind what is skipped already. -/
theorem closeTag_unspaced {s rest : List Char} (hs : Unspaced s) (h : closeTag directive start s = .ok rest) :
    s = tagEnd rest := by
  rw [← skipSpacing_of_unspaced hs]
  exact mark?_eq_some_iff.mp (closeTag_eq_ok_iff.mp h)

theorem ne_nil_of_closeTag (h : closeTag directive start (p ++ q) = .ok (b ++ q)) : p ≠ [] := by
  rintro rfl
  have hshort := (closeTag_takes h).length_lt
  have hle := (skipSpacing_isSuffix ([] ++ q)).length_le
  rw [List.length_append] at hshort
  rw [List.nil_append] at hshort hle
  omega

/-- A tag that ends right behind its word. -/
theorem openTag_closed (hword : isKeyword word = true) {r : List Char} (hopen : openTag? word (p ++ q) = some r)
    (hclose : closeTag directive start r = .ok (b ++ q)) (start' t : List Char) :
    ∃ r', openTag? word (p ++ t) = some r' ∧ closeTag directive start' r' = .ok (b ++ t) := by
  obtain rfl : r = tagEnd b ++ q := closeTag_unspaced (openTag?_opens hword hopen).2.2 hclose
  exact ⟨_, openTag?_swap hword hopen (firm_tagEnd b) t, closeTag_swap hclose start' t⟩

theorem endClause_swap (hword : isKeyword word = true)
    (h : endClause word directive start (p ++ q) = .ok (b ++ q)) (start' t : List Char) :
    endClause word directive start' (p ++ t) = .ok (b ++ t) := by
  obtain ⟨-, r, hopen, hclose⟩ := endClause_eq_ok_iff.mp h
  suffices hparts : ∃ r', openTag? word (p ++ t) = some r' ∧ closeTag directive start'
      (if directive = .block then ((identifier? r').map (·.2)).getD r' else r') = .ok (b ++ t) by
    obtain ⟨r', hopen', hclose'⟩ := hparts
    exact endClause_eq_ok_iff.mpr ⟨tagWord?_of_openTag? hword hopen', r', hopen', hclose'⟩
  by_cases hblock : directive = .block
  · rw [if_pos hblock] at hclose
    simp only [if_pos hblock]
    cases hname : identifier? r with
    | none =>
      rw [hname] at hclose
      obtain rfl : r = tagEnd b ++ q := closeTag_unspaced (openTag?_opens hword hopen).2.2 hclose
      refine ⟨_, openTag?_swap hword hopen (firm_tagEnd b) t, ?_⟩
      have hname' : identifier? (tagEnd b ++ t) = none := identifier?_of_stops (Stops.cons rfl)
      rw [hname']
      exact closeTag_swap hclose start' t
    | some found =>
      obtain ⟨name, r₂⟩ := found
      rw [hname] at hclose
      obtain ⟨a₂, rfl⟩ : q <:+ r₂ := (List.suffix_append b q).trans (closeTag_isSuffix hclose)
      have htakes := (identifier?_takes hname).2
      obtain ⟨a, rfl⟩ : q <:+ r := (List.suffix_append a₂ q).trans htakes.isSuffix
      refine ⟨_, openTag?_swap hword hopen (cut_of_takes htakes).1 t, ?_⟩
      rw [identifier?_swap hname (.of_ne_nil (ne_nil_of_closeTag hclose) q t)]
      exact closeTag_swap hclose start' t
  · rw [if_neg hblock] at hclose
    simp only [if_neg hblock]
    exact openTag_closed hword hopen hclose start' t

/-- An expression at the end of a tag. -/
theorem expression_tagEnd {e : Expr} {r : List Char} (h : expression (a ++ q) = .ok (some e, r))
    (hclose : closeTag directive start r = .ok (b ++ q)) (start' t : List Char) :
    Firm a ∧ ∃ r', expression (a ++ t) = .ok (some e, r') ∧ closeTag directive start' r' = .ok (b ++ t) := by
  obtain ⟨-, htakes, hr⟩ := expression_yields _ _ _ h
  obtain rfl : r = tagEnd b ++ q := closeTag_unspaced hr hclose
  have hread := expression_local h (halts_tagEnd (tagEnd b ++ q) (b ++ t))
  rw [(firm_tagEnd b).skipSpacing_append] at hread
  exact ⟨(cut_of_takes htakes).1, _, hread, closeTag_swap hclose start' t⟩

end

/-! ## Statements without content -/

theorem output_swap {node : Node} (hmark : (mark? "\x7b\x7b" (p ++ q)).isSome)
    (h : output S (p ++ q) = .ok (node, b ++ q)) (S' t : List Char) :
    (mark? "\x7b\x7b" (p ++ t)).isSome ∧ ∃ e, node = .output (Position.before S (p ++ q)) e ∧
      output S' (p ++ t) = .ok (.output (Position.before S' (p ++ t)) e, b ++ t) := by
  obtain ⟨r₀, hr₀⟩ := Option.isSome_iff_exists.mp hmark
  obtain ⟨e, r, he, hclose, rfl⟩ := output_eq_ok_iff.mp h
  rw [hr₀, Option.getD_some] at he
  obtain ⟨-, htakes, hr⟩ := expression_yields _ _ _ he
  rw [skipSpacing_of_unspaced hr] at hclose
  obtain rfl : r = ('\x7d' :: '\x7d' :: b) ++ q := mark?_eq_some_iff.mp hclose
  obtain ⟨p', a, rfl, ha, -, -, hskip⟩ := piece_of_skipped htakes.append
  have hp : p ++ q = ('\x7b' :: '\x7b' :: p') ++ q := mark?_eq_some_iff.mp hr₀
  obtain rfl := List.append_cancel_right hp
  rw [ha] at he
  have hend : Firm ('\x7d' :: '\x7d' :: b) := .cons rfl (by decide) _
  have hread := expression_local he (Halts.closer (by decide) _ ('\x7d' :: (b ++ t)))
  have hread : expression (a ++ t) = .ok (some e, ('\x7d' :: '\x7d' :: b) ++ t) := by
    rw [hread, ← hend.skipSpacing_append t]
    rfl
  have hmark' : mark? "\x7b\x7b" (('\x7b' :: '\x7b' :: p') ++ t) = some (p' ++ t) := rfl
  refine ⟨rfl, e, rfl, output_eq_ok_iff.mpr ⟨e, ('\x7d' :: '\x7d' :: b) ++ t, ?_, ?_, rfl⟩⟩
  · rw [hmark', Option.getD_some, hskip t, hread]
  · rw [hend.skipSpacing_append]
    rfl

theorem inclusion_swap {node : Node} (h : inclusion S (p ++ q) = .ok (node, b ++ q)) (S' t : List Char) :
    ∃ name, node = .inclusion (Position.before S (p ++ q)) name ∧
      inclusion S' (p ++ t) = .ok (.inclusion (Position.before S' (p ++ t)) name, b ++ t) := by
  obtain ⟨r, name, r', hopen, hname, hclose, rfl⟩ := inclusion_eq_ok_iff.mp h
  obtain ⟨a', rfl⟩ : q <:+ r' := (List.suffix_append b q).trans (closeTag_isSuffix hclose)
  obtain ⟨piece, hfirm, -, hr, -⟩ := string?_takes hname
  obtain rfl : r = (piece ++ a') ++ q := by rw [hr, List.append_assoc]
  exact ⟨name, rfl, inclusion_eq_ok_iff.mpr ⟨_, name, _,
    openTag?_swap (by decide) hopen (hfirm.append a') t, string?_swap hname t, closeTag_swap hclose _ t, rfl⟩⟩

theorem assignment_swap {node : Node} (h : assignment S (p ++ q) = .ok (node, b ++ q)) (S' t : List Char) :
    ∃ name e, node = .assignment (Position.before S (p ++ q)) name e ∧
      assignment S' (p ++ t) = .ok (.assignment (Position.before S' (p ++ t)) name e, b ++ t) := by
  obtain ⟨r₁, name, r₂, r₃, e, r₄, hopen, hname, hequals, he, hclose, rfl⟩ := assignment_eq_ok_iff.mp h
  have hvalue := (expression_yields _ _ _ he).2.1
  have hsign := (symbol?_takes (by decide) hequals).1
  have htarget := (identifier?_takes hname).2
  -- each part is in front of the next, up to the end of the tag
  obtain ⟨a₃, rfl⟩ : q <:+ r₃ :=
    (List.suffix_append b q).trans ((closeTag_isSuffix hclose).trans hvalue.isSuffix)
  obtain ⟨hfirm₃, r₄', he', hclose'⟩ := expression_tagEnd he hclose (p ++ t) t
  obtain ⟨a₂, c, rfl, hc, hfirm, hlen, hskip⟩ := piece_of_skipped hsign.append
  obtain ⟨a₁, rfl⟩ : q <:+ r₁ := (List.suffix_append a₂ q).trans htarget.isSuffix
  rw [hc] at hequals
  have hequals' : symbol? "=" (skipSpacing (a₂ ++ t)) = some (a₃ ++ t) := by
    rw [hskip t, symbol?_swap hequals t, hfirm₃.skipSpacing_append]
  exact ⟨name, e, rfl, assignment_eq_ok_iff.mpr ⟨_, name, _, _, e, r₄',
    openTag?_swap (by decide) hopen (cut_of_takes htarget).1 t,
    identifier?_swap hname (.of_ne_nil (ne_nil_of_length_le hfirm hlen) q t), hequals', he', hclose', rfl⟩⟩

/-! ## Tags with content behind them -/

theorem loopVariable_swap {name : String} (h : loopVariable start (p ++ q) = .ok (name, b ++ q)) (hb : Firm b)
    (start' t : List Char) : loopVariable start' (p ++ t) = .ok (name, b ++ t) := by
  obtain ⟨r, hname, hskip⟩ := loopVariable_eq_ok_iff.mp h
  obtain ⟨a, c, rfl, hc, -, hlen, hskip'⟩ := piece_of_skipped ⟨b, hb, hskip⟩
  obtain rfl := List.append_cancel_right (hc.symm.trans hskip)
  exact loopVariable_eq_ok_iff.mpr
    ⟨_, identifier?_swap hname (.of_ne_nil (ne_nil_of_length_le hb hlen) q t), hskip' t⟩

theorem loopTarget_swap {target : Target} (h : loopTarget start (p ++ q) = .ok (target, b ++ q)) (hb : Firm b)
    (start' t : List Char) : loopTarget start' (p ++ t) = .ok (target, b ++ t) := by
  obtain ⟨first, r, hfirst, ⟨hcomma, rfl, rfl⟩ | ⟨r', second, hcomma, hsecond, rfl⟩⟩ :=
    loopTarget_eq_ok_iff.mp h
  · exact loopTarget_eq_ok_iff.mpr ⟨first, _, loopVariable_swap hfirst hb start' t,
      .inl ⟨symbol?_char_swap "," rfl hb.ne_nil t hcomma, rfl, rfl⟩⟩
  · have htakes := (loopVariable_yields hsecond).2.1
    obtain ⟨c, rfl⟩ : q <:+ r' := (List.suffix_append b q).trans htakes.isSuffix
    have hmark := (symbol?_takes (by decide) hcomma).1
    obtain ⟨a, rfl⟩ : q <:+ r := (List.suffix_append c q).trans hmark.isSuffix
    have hcomma' := symbol?_swap hcomma t
    rw [(cut_of_takes htakes).1.skipSpacing_append] at hcomma'
    exact loopTarget_eq_ok_iff.mpr ⟨first, _, loopVariable_swap hfirst (cut_of_takes hmark).1 start' t,
      .inr ⟨_, second, hcomma', loopVariable_swap hsecond hb start' t, rfl⟩⟩

theorem loopFilters_tagEnd (start rest : List Char) (n : Nat) :
    loopFilters start n (tagEnd rest) = .ok ([], tagEnd rest) := by
  cases n <;> rfl

theorem expression_local_any (n : Nat) : Local n expression expression :=
  fun _ _ _ _ _ hread ht => expression_local (b := []) hread ht

/-- A filter behind its mark, which the filter or collection in front of it ends at. -/
theorem furtherFilter_local (n : Nat) (start start' q t : List Char) :
    LocalRound n (furtherFilter start) (furtherFilter start') q t := by
  intro a b filter hn hread ht
  obtain ⟨r, hmark, hfilter⟩ := furtherFilter_eq_some_iff.mp hread
  obtain ⟨d, hsign, hword⟩ := Option.bind_eq_some_iff.mp hmark
  have htakes := (functionReference_yields expression_yields _ _ _ hfilter).2.1
  have hkeyword := (keyword?_takes (by decide) hword).1
  obtain ⟨c, rfl⟩ : q <:+ r := (List.suffix_append b q).trans htakes.isSuffix
  obtain ⟨d, rfl⟩ : q <:+ d := (List.suffix_append c q).trans hkeyword.isSuffix
  obtain ⟨hfirm, -⟩ := cut_of_takes htakes
  obtain ⟨hfirmWord, -⟩ := cut_of_takes hkeyword
  obtain ⟨hfirmSign, -⟩ := cut_of_takes (symbol?_takes (by decide) hsign).1
  have hfilter' := (functionReference_local expression_yields (expression_local_any c.length)).inside
    (functionReference_yields expression_yields) (Nat.le_succ _) hfilter ht
  have hsign' := symbol?_swap hsign t
  rw [hfirmWord.skipSpacing_append] at hsign'
  have hword' := keyword?_swap (by decide) hword (.of_ne_nil hfirm.ne_nil q t)
  rw [hfirm.skipSpacing_append] at hword'
  obtain ⟨a, rfl, -⟩ := symbol?_piece (c := '|') rfl hfirmSign.ne_nil hsign
  exact ⟨.pipe fun _ => noStage_of_keyword (by decide) hsign' hword',
    furtherFilter_eq_some_iff.mpr ⟨_, Option.bind_eq_some_iff.mpr ⟨_, hsign', hword'⟩, hfilter'⟩⟩

/-- The filters of a loop, up to the end of its tag. -/
theorem loopFilters_swap {n : Nat} {filters : List Expr}
    (h : loopFilters start n (a ++ (tagEnd b ++ q)) = .ok (filters, tagEnd b ++ q)) (start' t : List Char) :
    Halts (a ++ (tagEnd b ++ q)) (a ++ (tagEnd b ++ t)) ∧
      loopFilters start' (skipSpacing (a ++ (tagEnd b ++ t))).length (skipSpacing (a ++ (tagEnd b ++ t))) =
        .ok (filters, tagEnd b ++ t) := by
  have hskip : skipSpacing (tagEnd b ++ t) = tagEnd b ++ t := (firm_tagEnd b).skipSpacing_append t
  have hend : furtherFilter start' (skipSpacing (tagEnd b ++ t)) = .ok (none, skipSpacing (tagEnd b ++ t)) := by
    rw [hskip]
    exact furtherFilter_eq_none_iff.mpr rfl
  rw [loopFilters_eq_rounds] at h ⊢
  have hfilters := rounds_local furtherFilter_yields (furtherFilter_local a.length start start' _ _) hend
    (halts_tagEnd _ (b ++ t)) h (Nat.le_refl _) (Nat.le_refl _)
  rwa [hskip] at hfilters

/-- The tag of a loop, up to the content behind it. -/
theorem loopTag_swap {r₁ r₂ r₃ r₄ r₅ : List Char} {target : Target} {collection : Expr} {filters : List Expr}
    {directive : Directive} {n : Nat} (hopen : openTag? "for" (p ++ q) = some r₁)
    (htarget : loopTarget start r₁ = .ok (target, r₂)) (hin : keyword? "in" r₂ = some r₃)
    (hcollection : expression r₃ = .ok (some collection, r₄))
    (hfilters : loopFilters start n r₄ = .ok (filters, r₅)) (hclose : closeTag directive start r₅ = .ok q)
    (start' t : List Char) :
    ∃ r₁ r₂ r₃ r₄ r₅, openTag? "for" (p ++ t) = some r₁ ∧ loopTarget start' r₁ = .ok (target, r₂) ∧
      keyword? "in" r₂ = some r₃ ∧ expression r₃ = .ok (some collection, r₄) ∧
      loopFilters start' r₄.length r₄ = .ok (filters, r₅) ∧ closeTag directive start' r₅ = .ok t := by
  have htakesTarget := (loopTarget_yields htarget).2.1
  have htakesIn := (keyword?_takes (by decide) hin).1
  obtain ⟨-, htakes, hr₄⟩ := expression_yields _ _ _ hcollection
  have hr₅ : Unspaced r₅ := by
    rcases (loopFilters_yields hfilters).taken with ⟨-, rfl⟩ | ⟨-, -, hr₅⟩
    · exact hr₄
    · exact hr₅
  obtain rfl : r₅ = tagEnd [] ++ q := closeTag_unspaced hr₅ hclose
  obtain ⟨a₄, rfl⟩ := (loopFilters_yields hfilters).isSuffix
  obtain ⟨a₃, rfl⟩ := (List.suffix_append a₄ _).trans htakes.isSuffix
  obtain ⟨a₂, rfl⟩ := (List.suffix_append a₃ _).trans htakesIn.isSuffix
  obtain ⟨a₁, rfl⟩ := (List.suffix_append a₂ _).trans htakesTarget.isSuffix
  obtain ⟨hhalts, hfilters'⟩ := loopFilters_swap hfilters start' t
  have hfirm₃ := (cut_of_takes htakes).1
  have hin' := keyword?_swap (by decide) hin (.of_ne_nil hfirm₃.ne_nil _ (tagEnd [] ++ t))
  rw [hfirm₃.skipSpacing_append] at hin'
  rw [← List.append_assoc] at hopen
  have hopen' := openTag?_swap (by decide) hopen ((cut_of_takes htakesTarget).1.append _) t
  rw [List.append_assoc] at hopen'
  exact ⟨_, _, _, _, _, hopen', loopTarget_swap htarget (cut_of_takes htakesIn).1 start' _, hin',
    expression_local hcollection hhalts, hfilters', closeTag_swap (b := []) hclose start' t⟩

/-- The tag of a block, up to the content behind it. -/
theorem blockTag_swap {r r' : List Char} {name : String} {directive : Directive}
    (hopen : openTag? "block" (p ++ q) = some r) (hname : identifier? r = some (name, r'))
    (hclose : closeTag directive start r' = .ok q) (start' t : List Char) :
    ∃ r r', openTag? "block" (p ++ t) = some r ∧ identifier? r = some (name, r') ∧
      closeTag directive start' r' = .ok t := by
  have htakes := (identifier?_takes hname).2
  obtain ⟨b, rfl⟩ := closeTag_isSuffix hclose
  obtain ⟨a, rfl⟩ := (List.suffix_append b q).trans htakes.isSuffix
  have hne : b ≠ [] := ne_nil_of_closeTag (b := []) hclose
  exact ⟨_, _, openTag?_swap (by decide) hopen (cut_of_takes htakes).1 t,
    identifier?_swap hname (.of_ne_nil hne q t), closeTag_swap (b := []) hclose start' t⟩

/-! ## Verbatim statements -/

theorem takeWhile_append_of_stop {p : Char → Bool} {c : Char} (hc : p c = false) (front rest : List Char) :
    (front ++ c :: rest).takeWhile p = front.takeWhile p := by
  induction front with
  | nil => simp [hc]
  | cons d front ih => simp only [List.cons_append, List.takeWhile_cons, ih]

/-- No comment opens in the text. -/
def Uncommented (text : List Char) : Prop := ¬ "\x7b#".toList <:+: text

theorem Uncommented.tail {c : Char} {text : List Char} (h : Uncommented (c :: text)) : Uncommented text :=
  fun hinside => h (hinside.trans (List.suffix_cons c text).isInfix)

/-- A brace in a text in which no comment opens is not that of a comment. -/
theorem Uncommented.firm {text : List Char} (h : Uncommented ('\x7b' :: text)) (rest : List Char) :
    Unspaced ('\x7b' :: (text ++ '\x7b' :: rest)) := by
  cases text with
  | nil => exact Firm.brace (by decide) [] rest
  | cons d text =>
    refine Firm.brace (fun hd => h ?_) text ('\x7b' :: rest)
    rw [hd]
    exact (List.prefix_append ['\x7b', '#'] text).isInfix

/-- Where no comment opens, only blanks are skipped in front of a tag. -/
theorem skipSpacing_uncommented {front : List Char} (h : Uncommented front) (rest : List Char) :
    skipSpacing (front ++ '\x7b' :: '%' :: rest) = front.dropWhile isSpace ++ '\x7b' :: '%' :: rest := by
  induction front with
  | nil =>
    have htag : Unspaced ('\x7b' :: '%' :: rest) := Firm.brace (by decide) [] rest
    exact skipSpacing_of_unspaced htag
  | cons c front ih =>
    by_cases hspace : isSpace c = true
    · rw [List.cons_append, skipSpacing_space hspace, ih h.tail, List.dropWhile_cons_of_pos hspace]
    · rw [List.dropWhile_cons_of_neg hspace, List.cons_append]
      refine skipSpacing_of_unspaced ?_
      by_cases hbrace : c = '\x7b'
      · subst hbrace
        exact h.firm ('%' :: rest)
      · exact .cons _ (by simpa using hspace) hbrace

/-- Which word stands in a text in which no comment opens does not depend on what is in the
    tag behind it. -/
theorem tagWord?_uncommented {front : List Char} (hne : front ≠ []) (h : Uncommented front) (x y : List Char) :
    tagWord? (front ++ '\x7b' :: '%' :: x) = tagWord? (front ++ '\x7b' :: '%' :: y) := by
  have hword : ∀ inside, Uncommented inside → ∀ rest,
      (skipSpacing (inside ++ '\x7b' :: '%' :: rest)).takeWhile isLetterOrDigit =
        (inside.dropWhile isSpace).takeWhile isLetterOrDigit := by
    intro inside hinside rest
    rw [skipSpacing_uncommented hinside, takeWhile_append_of_stop (by decide)]
  cases hmark : mark? "\x7b%" (front ++ ['\x7b']) with
  | none =>
    have hnone : ∀ rest, mark? "\x7b%" (front ++ '\x7b' :: rest) = none := by
      intro rest
      have hlen : "\x7b%".toList.length ≤ (front ++ ['\x7b']).length := by
        have := List.length_pos_of_ne_nil hne
        rw [List.length_append]
        exact Nat.succ_le_succ this
      have hswap := mark?_swap (q := []) hlen rest (by rwa [List.append_nil])
      rwa [List.append_assoc] at hswap
    simp only [tagWord?, hnone]
  | some r =>
    have hr : front ++ ['\x7b'] = '\x7b' :: '%' :: r := mark?_eq_some_iff.mp hmark
    obtain ⟨c, front, rfl⟩ := List.exists_cons_of_ne_nil hne
    obtain ⟨rfl, htail⟩ := List.cons.inj hr
    cases front with
    | nil =>
      obtain ⟨hbrace, -⟩ := List.cons.inj htail
      exact absurd hbrace (by decide)
    | cons d inside =>
      obtain ⟨rfl, -⟩ := List.cons.inj htail
      have hopen : ∀ rest, mark? "\x7b%" (('\x7b' :: '%' :: inside) ++ rest) = some (inside ++ rest) :=
        fun _ => rfl
      simp only [tagWord?, hopen, hword inside h.tail.tail]

theorem verbatimBody?_swap {body tail : List Char} (hbody : Uncommented body)
    (h : verbatimBody? (body ++ '\x7b' :: '%' :: tail ++ q) = some (body, '\x7b' :: '%' :: tail ++ q)) {t : List Char}
    (hend : tagWord? ('\x7b' :: '%' :: tail ++ t) = some "endverbatim") :
    verbatimBody? (body ++ '\x7b' :: '%' :: tail ++ t) = some (body, '\x7b' :: '%' :: tail ++ t) := by
  induction body with
  | nil =>
    show verbatimBody? ('\x7b' :: '%' :: tail ++ t) = _
    rw [List.cons_append, verbatimBody?]
    exact if_pos hend
  | cons c body ih =>
    simp only [List.cons_append, List.append_assoc] at h ih ⊢
    have hword := tagWord?_uncommented (List.cons_ne_nil c body) hbody (tail ++ q) (tail ++ t)
    simp only [List.cons_append] at hword
    rw [verbatimBody?] at h ⊢
    split at h
    · cases h
    · rename_i hother
      rw [hword] at hother
      obtain ⟨⟨body', rest⟩, hread, h⟩ := Option.map_eq_some_iff.mp h
      obtain ⟨hc, rfl⟩ := Prod.mk.inj h
      obtain ⟨-, rfl⟩ := List.cons.inj hc
      rw [if_neg hother, ih hbody.tail hread]
      rfl

/-- A verbatim statement in whose text no comment opens. -/
theorem verbatim_swap {body : List Char} (h : verbatim (p ++ q) = .ok (body, b ++ q)) (hbody : Uncommented body)
    (t : List Char) : verbatim (p ++ t) = .ok (body, b ++ t) := by
  obtain ⟨r₁, r₂, r₃, r₄, hopen, hclose, hread, hend, hclose'⟩ := verbatim_eq_ok_iff.mp h
  have htakes := (openTag?_opens (by decide) hend).2.1
  obtain ⟨a₄, rfl⟩ : q <:+ r₄ := (List.suffix_append b q).trans (closeTag_isSuffix hclose')
  obtain ⟨a₃, rfl⟩ : q <:+ r₃ := (List.suffix_append a₄ q).trans htakes.isSuffix
  obtain ⟨tail, -, rfl, -⟩ := openTag?_piece (by decide) hend
  obtain ⟨r₄', hend', hclose''⟩ := openTag_closed (by decide) hend hclose' (p ++ t) t
  obtain rfl : r₂ = (body ++ '\x7b' :: '%' :: tail) ++ q := by
    rw [verbatimBody?_eq_append hread, List.append_assoc]
  obtain ⟨r₁', hopen', hclose₁⟩ := openTag_closed (by decide) hopen hclose (p ++ t) t
  exact verbatim_eq_ok_iff.mpr ⟨r₁', _, _, r₄', hopen', hclose₁,
    verbatimBody?_swap hbody hread (tagWord?_of_openTag? (by decide) hend'), hend', hclose''⟩

end TemplateEngine.Grammar
