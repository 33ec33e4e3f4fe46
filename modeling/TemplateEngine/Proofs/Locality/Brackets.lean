/-
  TemplateEngine.Proofs.Locality.Brackets — forms in brackets look no further than they read.

  What a rule has read in front of one text it reads in front of every other at which an
  expression ends as well (`Local`). A form that a bracket closes is read in front of
  anything (`Closed`). The two runs may be given different bounds on the length of the text,
  as long as the second is given the length of what is read.

  Proved:
  - `enclosed_closed`, `parenthesized_closed`, `mapLiteral_closed`, `fixedKey_closed`: each
    form in brackets is closed if the expressions inside it are local.
-/

import TemplateEngine.Proofs.Locality.Halt

namespace TemplateEngine.Grammar

open Scan
open TemplateEngine.Expr (WellFormed)
open Operator (Level)

variable {n : Nat} {primary primary' expr expr' : Rule Expr} {a b q : List Char}

/-- What is read in front of `q` is read in front of every text at which it ends. -/
def Local {α : Type} (n : Nat) (rule rule' : Rule α) : Prop :=
  ∀ a q t x, a.length ≤ n → rule (a ++ q) = .ok (some x, q) → Halts q t →
    rule' (a ++ t) = .ok (some x, skipSpacing t)

/-- What is read in front of `q` is read in front of every text. -/
def Closed {α : Type} (n : Nat) (rule rule' : Rule α) : Prop :=
  ∀ a q t x, a.length ≤ n → rule (a ++ q) = .ok (some x, q) →
    rule' (a ++ t) = .ok (some x, skipSpacing t)

/-- What a piece loses when something is taken from its front. -/
theorem cut_of_takes (h : Takes (a ++ q) (b ++ q)) : Firm a ∧ b.length < a.length := by
  have hlen := h.length_lt
  rw [List.length_append, List.length_append] at hlen
  exact ⟨(h.suffix (List.suffix_append b q)).firm, by omega⟩

theorem ne_nil_of_takes (h : Takes (a ++ q) q) : a ≠ [] := (cut_of_takes (b := []) h).1.ne_nil

/-- A piece that is read behind spacing is behind the same spacing in front of every text. -/
theorem piece_of_skipped {r : List Char} (h : Takes (skipSpacing r) q) :
    ∃ b c, r = b ++ q ∧ skipSpacing (b ++ q) = c ++ q ∧ Firm c ∧ c.length ≤ b.length ∧
      ∀ t, skipSpacing (b ++ t) = c ++ t := by
  obtain ⟨c, hfirm, hc⟩ := h
  obtain ⟨b, rfl⟩ := (hc ▸ List.suffix_append c q).trans (skipSpacing_isSuffix r)
  have hlen := (skipSpacing_isSuffix (b ++ q)).length_le
  rw [hc, List.length_append, List.length_append] at hlen
  refine ⟨b, c, rfl, hc, hfirm, by omega, fun t => ?_⟩
  rw [skipSpacing_swap hc t, hfirm.skipSpacing_append]

theorem ne_nil_of_length_le (h : Firm a) (hle : a.length ≤ b.length) : b ≠ [] :=
  List.ne_nil_of_length_pos (Nat.lt_of_lt_of_le (List.length_pos_of_ne_nil h.ne_nil) hle)

/-- An expression inside a piece, in front of what the rest of the piece starts with. -/
theorem Local.inside {α : Type} {good : α → Prop} {rule rule' : Rule α} (h : Local n rule rule')
    (hy : Yields good rule) (hn : a.length ≤ n) {x : α} (hread : rule (a ++ q) = .ok (some x, b ++ q))
    {t : List Char} (ht : Halts (b ++ q) (b ++ t)) : rule' (a ++ t) = .ok (some x, skipSpacing (b ++ t)) := by
  obtain ⟨-, ⟨piece, -, hs⟩, -⟩ := hy _ _ _ hread
  rw [← List.append_assoc] at hs
  obtain rfl := List.append_cancel_right hs
  rw [List.length_append] at hn
  rw [List.append_assoc] at hread ⊢
  exact h piece _ _ x (by omega) hread ht

theorem firm_closer {c : Char} (h : closes c = true) (piece : List Char) : Firm (c :: piece) := by
  obtain ⟨hspace, hbrace, -⟩ := closes_apart h
  exact .cons hspace hbrace piece

/-- A mark of one character starts the piece that it is read from. -/
theorem symbol?_piece {text : String} {c : Char} (htext : text.toList = [c]) {r : List Char} (ha : a ≠ [])
    (h : symbol? text (a ++ q) = some r) : ∃ a', a = c :: a' ∧ skipSpacing (a' ++ q) = r := by
  obtain ⟨r', hr', rfl⟩ := symbol?_eq_some_iff.mp h
  rw [htext] at hr'
  obtain ⟨d, a', rfl⟩ := List.exists_cons_of_ne_nil ha
  obtain ⟨rfl, rfl⟩ := List.cons.inj hr'
  exact ⟨a', rfl, rfl⟩

/-- A mark of one character, with what is skipped behind it. -/
theorem symbol?_cons {text : String} {c : Char} (htext : text.toList = [c]) {s : List Char}
    (h : symbol? text s = some q) : ∃ behind, s = (c :: behind) ++ q := by
  obtain ⟨r, rfl, rfl⟩ := symbol?_eq_some_iff.mp h
  obtain ⟨behind, hr⟩ := skipSpacing_isSuffix r
  exact ⟨behind, by rw [htext, List.cons_append, List.cons_append, List.nil_append, hr]⟩

/-! ## Members one behind another -/

/-- A round that is read in front of `q` is read in front of `t`, if it ends there, and what
    stands in front of the round ends where it starts. -/
def LocalRound {α : Type} (n : Nat) (round round' : Rule α) (q t : List Char) : Prop :=
  ∀ a b x, a.length ≤ n → round (a ++ q) = .ok (some x, b ++ q) → Halts (b ++ q) (b ++ t) →
    Halts (a ++ q) (a ++ t) ∧ round' (a ++ t) = .ok (some x, skipSpacing (b ++ t))

/-- Rounds end at the next one, and the last where none follows in front of the other text
    either. -/
theorem rounds_local {α : Type} {good : α → Prop} {round round' : Rule α} {t : List Char}
    (hy : Yields good round) (h : LocalRound n round round' q t)
    (hend : round' (skipSpacing t) = .ok (none, skipSpacing t)) (ht : Halts q t) {k : Nat} {more : List α}
    (hread : rounds round k (a ++ q) = .ok (more, q)) (hn : a.length ≤ n) {m : Nat}
    (hm : (skipSpacing (a ++ t)).length ≤ m) :
    Halts (a ++ q) (a ++ t) ∧ rounds round' m (skipSpacing (a ++ t)) = .ok (more, skipSpacing t) := by
  -- from the last round to the first, since each ends at the one behind it
  induction k generalizing a more m with
  | zero =>
    obtain ⟨rfl, hs⟩ := Prod.mk.inj (Except.ok.inj hread)
    obtain rfl := List.append_left_eq_self.mp hs
    exact ⟨ht, rounds_of_none hend m⟩
  | succ k ih =>
    rcases rounds_succ_iff.mp hread with ⟨rfl, hs, -⟩ | ⟨x, r, more', hx, hmore, rfl⟩
    · obtain rfl := List.append_left_eq_self.mp hs
      exact ⟨ht, rounds_of_none hend m⟩
    obtain ⟨b, rfl⟩ := (rounds_yields hy hmore).isSuffix
    obtain ⟨hfirm, hlen⟩ := cut_of_takes (hy _ _ _ hx).2.1
    have hskip := (skipSpacing_isSuffix (b ++ t)).length_le
    rw [hfirm.skipSpacing_append] at hm ⊢
    rw [List.length_append] at hm hskip
    obtain ⟨m, rfl⟩ : ∃ i, m = i + 1 := ⟨m - 1, by omega⟩
    obtain ⟨hhalts, hmore'⟩ := ih hmore (by omega) (show (skipSpacing (b ++ t)).length ≤ m by omega)
    obtain ⟨hhalts', hx'⟩ := h a b x hn hx hhalts
    exact ⟨hhalts', rounds_succ_iff.mpr (.inr ⟨x, _, more', hx', hmore', rfl⟩)⟩

/-! ## Members in brackets -/

section

variable (hy : Yields WellFormed expr) (he : Local n expr expr')
include hy he

theorem furtherMember_local (q t : List Char) :
    LocalRound n (furtherMember expr) (furtherMember expr') q t := by
  intro a b x hn hread ht
  obtain ⟨r, hcomma, hx⟩ := furtherMember_eq_some_iff.mp hread
  have htakes := (hy _ _ _ hx).2.1
  obtain ⟨c, rfl⟩ := (List.suffix_append b q).trans htakes.isSuffix
  obtain ⟨hfirm, -⟩ := cut_of_takes htakes
  obtain ⟨hfirm', hlen⟩ := cut_of_takes (symbol?_takes (by decide) hcomma).1
  have hcomma' := symbol?_swap hcomma t
  rw [hfirm.skipSpacing_append] at hcomma'
  obtain ⟨a, rfl, -⟩ := symbol?_piece (c := ',') rfl hfirm'.ne_nil hcomma
  exact ⟨.closer (by decide) _ (a ++ t),
    furtherMember_eq_some_iff.mpr ⟨_, hcomma', he.inside hy (by omega) hx ht⟩⟩

/-- Further members are read in front of a mark that closes, whatever is behind it. -/
theorem afterCommas_closed {c : Char} {behind : List Char} (hc : closes c = true) (hcomma : c ≠ ',')
    {m : Nat} {more : List Expr}
    (hread : afterCommas expr m (a ++ ((c :: behind) ++ q)) = .ok (more, (c :: behind) ++ q))
    (hn : a.length ≤ n) (t : List Char) :
    Halts (a ++ ((c :: behind) ++ q)) (a ++ ((c :: behind) ++ t)) ∧
      ∀ m, (skipSpacing (a ++ ((c :: behind) ++ t))).length ≤ m →
        afterCommas expr' m (skipSpacing (a ++ ((c :: behind) ++ t))) = .ok (more, (c :: behind) ++ t) := by
  have hskip : skipSpacing ((c :: behind) ++ t) = (c :: behind) ++ t := (firm_closer hc behind).skipSpacing_append t
  have hend : furtherMember expr' (skipSpacing ((c :: behind) ++ t)) =
      .ok (none, skipSpacing ((c :: behind) ++ t)) := by
    rw [hskip]
    exact furtherMember_eq_none_iff.mpr
      (symbol?_of_stops (p := (· == ',')) (Stops.cons (by simpa using hcomma)) rfl)
  rw [afterCommas_eq_rounds] at hread
  have hlocal := fun m hm => rounds_local (furtherMember_yields hy) (furtherMember_local hy he _ _) hend
    (Halts.closer hc _ (behind ++ t)) hread hn (m := m) hm
  rw [hskip] at hlocal
  exact ⟨(hlocal _ (Nat.le_refl _)).1, fun m hm => afterCommas_eq_rounds .. ▸ (hlocal m hm).2⟩

theorem enclosed_closed {opening closing : String} {c : Char} (hopening : startsFirm opening = true)
    (hclosing : closing.toList = [c]) (hc : closes c = true) (hcomma : c ≠ ',') :
    Closed (n + 1) (enclosed opening closing expr) (enclosed opening closing expr') := by
  intro a q t items hn hread
  obtain ⟨r, hopen, ⟨rfl, hclose⟩ | ⟨hclose, first, r', more, r'', hfirst, hmore, hend, rfl⟩⟩ :=
    enclosed_eq_some_iff.mp hread
  · obtain ⟨behind, rfl⟩ := symbol?_cons hclosing hclose
    have hopen' := symbol?_swap hopen t
    rw [(firm_closer hc behind).skipSpacing_append] at hopen'
    exact enclosed_eq_some_iff.mpr ⟨_, hopen', .inl ⟨rfl, symbol?_swap (a := []) hclose t⟩⟩
  · obtain ⟨behind, rfl⟩ := symbol?_cons hclosing hend
    obtain ⟨b', rfl⟩ := (afterCommas_yields hy hmore).isSuffix
    have htakes := (hy _ _ _ hfirst).2.1
    obtain ⟨b, rfl⟩ := (List.suffix_append b' _).trans htakes.isSuffix
    obtain ⟨hfirm, hlen⟩ := cut_of_takes htakes
    have hopened : symbol? opening (a ++ q) = some ((b ++ c :: behind) ++ q) := by rw [List.append_assoc]; exact hopen
    obtain ⟨-, hlen'⟩ := cut_of_takes (symbol?_takes hopening hopened).1
    have hopen' := symbol?_swap hopened t
    rw [List.append_assoc, hfirm.skipSpacing_append] at hopen'
    rw [List.length_append] at hlen'
    obtain ⟨hhalts, hmore'⟩ := afterCommas_closed hy he hc hcomma hmore (by omega) t
    have hfirst' := he.inside hy (by omega) hfirst hhalts
    have hclose' := symbol?_char_swap closing hclosing hfirm.ne_nil ((c :: behind) ++ t) hclose
    exact enclosed_eq_some_iff.mpr ⟨_, hopen', .inr ⟨hclose', first, _, more, _, hfirst',
      hmore' _ (Nat.le_refl _), symbol?_swap (a := []) hend t, rfl⟩⟩

theorem arguments_closed : Closed (n + 1) (arguments expr) (arguments expr') :=
  enclosed_closed hy he (by decide) rfl (by decide) (by decide)

theorem parenthesized_closed : Closed (n + 1) (parenthesized expr) (parenthesized expr') := by
  intro a q t x hn hread
  obtain ⟨r, r', hopen, hinner, hclose⟩ := parenthesized_eq_some_iff.mp hread
  have hcloser : closes ')' = true := by decide
  obtain ⟨behind, rfl⟩ := symbol?_cons (c := ')') rfl hclose
  obtain ⟨-, htakes, -⟩ := hy _ _ _ hinner
  obtain ⟨b, rfl⟩ := (List.suffix_append _ q).trans htakes.isSuffix
  obtain ⟨hfirm, -⟩ := cut_of_takes htakes
  obtain ⟨-, hlen⟩ := cut_of_takes (symbol?_takes (by decide) hopen).1
  have hopen' := symbol?_swap hopen t
  rw [hfirm.skipSpacing_append] at hopen'
  have hinner' := he.inside hy (by omega) hinner (Halts.closer hcloser _ (behind ++ t))
  rw [(firm_closer hcloser behind).skipSpacing_append] at hinner'
  exact parenthesized_eq_some_iff.mpr ⟨_, _, hopen', hinner', symbol?_swap (a := []) hclose t⟩

end

/-! ## Maps -/

theorem mapKey_swap {key : String} (hread : mapKey (a ++ q) = .ok (some key, b ++ q)) (hb : b ≠ [])
    (t : List Char) : mapKey (a ++ t) = .ok (some key, b ++ t) := by
  rcases mapKey_eq_some_iff.mp hread with hname | ⟨-, hstring⟩
  · exact mapKey_eq_some_iff.mpr (.inl (identifier?_swap hname (SameWord.of_ne_nil hb q t)))
  · have hstring' := string?_swap hstring t
    obtain ⟨c, s, hs, hquote⟩ := string?_head hstring'
    have hname : identifier? (a ++ t) = none := by
      rw [hs]
      rcases hquote with rfl | rfl <;> exact identifier?_of_stops (Stops.cons rfl)
    exact mapKey_eq_some_iff.mpr (.inr ⟨hname, hstring'⟩)

section

variable (hy : Yields WellFormed expr) (he : Local n expr expr')
include hy he

/-- A key and its member in front of a mark that parts or closes. -/
theorem entry_swap {key : String} {r r' : List Char} {e : Expr} {c : Char} {behind : List Char}
    (hc : closes c = true) (hkey : mapKey (a ++ q) = .ok (some key, r))
    (hcolon : symbol? ":" (skipSpacing r) = some r')
    (hmember : expr r' = .ok (some e, (c :: behind) ++ q)) (hn : a.length ≤ n + 1) (t : List Char) :
    ∃ r₁ r₂, mapKey (a ++ t) = .ok (some key, r₁) ∧ symbol? ":" (skipSpacing r₁) = some r₂ ∧
      expr' r₂ = .ok (some e, (c :: behind) ++ t) := by
  obtain ⟨-, hmemberTakes, -⟩ := hy _ _ _ hmember
  obtain ⟨hcolonTakes, -⟩ := symbol?_takes (by decide) hcolon
  obtain ⟨b, rfl⟩ := (List.suffix_append _ q).trans hmemberTakes.isSuffix
  obtain ⟨k, d, rfl, hd, -, hlenSpacing, hskip⟩ := piece_of_skipped hcolonTakes.append
  rw [hd] at hcolon hcolonTakes
  obtain ⟨hfirmMember, -⟩ := cut_of_takes hmemberTakes
  obtain ⟨-, hlen⟩ := cut_of_takes hcolonTakes
  obtain ⟨-, hlenKey⟩ := cut_of_takes (mapKey_takes hkey)
  have hkey' := mapKey_swap hkey (List.ne_nil_of_length_pos (by omega)) t
  have hcolon' := symbol?_swap hcolon t
  rw [hfirmMember.skipSpacing_append, ← hskip t] at hcolon'
  have hmember' := he.inside hy (by omega) hmember (Halts.closer hc _ (behind ++ t))
  rw [(firm_closer hc behind).skipSpacing_append] at hmember'
  exact ⟨_, _, hkey', hcolon', hmember'⟩

theorem mapEntries_closed {start start' : List Char} {m m' : Nat} {entries : List (String × Expr)}
    (hread : mapEntries expr start m (a ++ q) = .ok (entries, q)) (hn : a.length ≤ n + 1)
    (hm : a.length ≤ m') (t : List Char) :
    mapEntries expr' start' m' (a ++ t) = .ok (entries, skipSpacing t) := by
  induction m generalizing a entries m' with
  | zero => cases hread
  | succ m ih =>
    have hlen := (mapEntries_yields hy hread).2.1.length_lt
    rw [List.length_append] at hlen
    obtain ⟨m', rfl⟩ : ∃ k, m' = k + 1 := ⟨m' - 1, by omega⟩
    obtain ⟨key, r, r', e, r'', hkey, hcolon, hmember, hrest⟩ := mapEntries_succ_iff.mp hread
    have htakes : Takes (a ++ q) r'' := ((mapKey_takes hkey).skip.trans
      (symbol?_takes (by decide) hcolon).1).trans (hy _ _ _ hmember).2.1
    rcases hrest with ⟨-, hclose, rfl⟩ | ⟨r₃, more, hcomma, hmore, rfl⟩
    · obtain ⟨behind, rfl⟩ := symbol?_cons (c := '\x7d') rfl hclose
      obtain ⟨r₁, r₂, hkey', hcolon', hmember'⟩ := entry_swap hy he (by decide) hkey hcolon hmember hn t
      exact mapEntries_succ_iff.mpr ⟨key, r₁, r₂, e, _, hkey', hcolon', hmember',
        .inl ⟨rfl, symbol?_swap (a := []) hclose t, rfl⟩⟩
    · obtain ⟨hparts, -⟩ := symbol?_takes (by decide) hcomma
      obtain ⟨-, ⟨d, hfirmMore, rfl⟩, -⟩ := mapEntries_yields hy hmore
      obtain ⟨c, rfl⟩ := (List.suffix_append d q).trans hparts.isSuffix
      obtain ⟨hfirm, hlen'⟩ := cut_of_takes hparts
      obtain ⟨c, rfl, -⟩ := symbol?_piece (c := ',') rfl hfirm.ne_nil hcomma
      obtain ⟨r₁, r₂, hkey', hcolon', hmember'⟩ := entry_swap hy he (by decide) hkey hcolon hmember hn t
      obtain ⟨-, hlenEntry⟩ := cut_of_takes htakes
      have hcomma' := symbol?_swap hcomma t
      rw [hfirmMore.skipSpacing_append] at hcomma'
      exact mapEntries_succ_iff.mpr ⟨key, r₁, r₂, e, _, hkey', hcolon', hmember',
        .inr ⟨_, more, hcomma', ih hmore (by omega) (by omega), rfl⟩⟩

theorem mapLiteral_closed : Closed (n + 1) (mapLiteral expr) (mapLiteral expr') := by
  intro a q t x hn hread
  obtain ⟨-, htakes, -⟩ := mapLiteral_yields hy _ _ _ hread
  obtain ⟨r, hopen, hinside⟩ := mapLiteral_eq_some_iff.mp hread
  rcases hinside with ⟨hclose, rfl⟩ | ⟨hclose, entries, hentries, rfl⟩
  · obtain ⟨⟨b, hfirm, rfl⟩, -⟩ := symbol?_takes (by decide) hclose
    have hopen' := symbol?_swap hopen t
    rw [hfirm.skipSpacing_append] at hopen'
    exact mapLiteral_eq_some_iff.mpr ⟨_, hopen', .inl ⟨symbol?_swap (a := []) hclose t, rfl⟩⟩
  · obtain ⟨-, ⟨b, hfirm, rfl⟩, -⟩ := mapEntries_yields hy hentries
    have hopen' := symbol?_swap hopen t
    rw [hfirm.skipSpacing_append] at hopen'
    have hlen := symbol?_length_le hopen
    rw [List.length_append, List.length_append] at hlen
    have hclose' := symbol?_char_swap "\x7d" rfl hfirm.ne_nil t hclose
    exact mapLiteral_eq_some_iff.mpr ⟨_, hopen', .inr ⟨hclose', entries,
      mapEntries_closed hy he hentries (by omega) (by rw [List.length_append]; omega) t, rfl⟩⟩

end

theorem fixedKey_closed : Closed n fixedKey fixedKey := by
  intro a q t key _ hread
  obtain ⟨r, r', hopen, hkey, hclose⟩ := fixedKey_eq_some_iff.mp hread
  obtain ⟨d, c, rfl, hc, -, -, hskip⟩ := piece_of_skipped (symbol?_takes (by decide) hclose).1
  rw [hc] at hclose
  obtain ⟨piece, hfirmKey, -, rfl, -⟩ := string?_takes hkey
  rw [← List.append_assoc] at hopen hkey
  have hopen' := symbol?_swap hopen t
  rw [(hfirmKey.append d).skipSpacing_append] at hopen'
  have hclose' := symbol?_swap (a := []) hclose t
  rw [← hskip t] at hclose'
  exact fixedKey_eq_some_iff.mpr ⟨_, _, hopen', string?_swap hkey t, hclose'⟩

end TemplateEngine.Grammar
