/-
  TemplateEngine.Proofs.Locality.Bases — literals and names look no further than they read.

  A literal and a name end at a word boundary. Behind them a rule may still look for the
  point of a fraction, the points of a range, a bracket or an argument: none of them is found
  in front of the other text either. An argument may be a list of strings, which starts as
  the fixed key of a property does; that it is none shows inside the list (`PastKey`).

  Proved:
  - `listLiteral_local`, `literal_local`, `named_local`, `functionReference_local`,
    `selectionStep_local`: each is local.
  - `base_local`: so is the tightest rule of the ladder.
-/

import TemplateEngine.Proofs.Locality.Brackets

namespace TemplateEngine.Grammar

open Scan TemplateEngine.Except
open TemplateEngine.Expr (WellFormed)

variable {n : Nat} {primary primary' expr expr' : Rule Expr} {a b q t s : List Char}

theorem spacing_of_skipped (h : skipSpacing (a ++ q) = q) : Spacing a := by
  obtain ⟨-, w, hw, hs⟩ := spacing_skipSpacing (a ++ q)
  rw [h] at hs
  exact List.append_cancel_right hs ▸ hw

theorem Halts.skipped (h : Halts q t) (hskip : skipSpacing (a ++ q) = q) :
    Halts q (a ++ t) ∧ skipSpacing (a ++ t) = skipSpacing t :=
  ⟨h.spaced (spacing_of_skipped hskip), skipSpacing_append (spacing_of_skipped hskip) t⟩

/-! ## Ranges and lists -/

/-- No range starts here. -/
def NoRange (s : List Char) : Prop := range? integer? s = none ∧ range? letter? s = none

theorem noRange_of_stops (h : Stops (fun c => isDigit c || c == '-' || c == '\'') s) : NoRange s := by
  have hdigit : Stops isDigit s := h.mono fun c hc => by simp [hc]
  exact ⟨range?_absent (integer?_of_stops (h.char rfl) hdigit), range?_absent (letter?_of_stops (h.char rfl))⟩

theorem range?_of_bound {α : Type} {bound : List Char → Option (α × List Char)}
    (h : ∀ x r, bound s = some (x, r) → mark? ".." (skipSpacing r) = none) : range? bound s = none := by
  unfold range?
  cases hbound : bound s with
  | none => rfl
  | some found =>
    have hmark : symbol? ".." (skipSpacing found.2) = none := by
      rw [symbol?, h found.1 found.2 hbound]
      rfl
    simp only [Option.bind_eq_bind, Option.bind_some, hmark]
    rfl

theorem range?_swap {α : Type} {bound : List Char → Option (α × List Char)}
    (htakes : ∀ {s x r}, bound s = some (x, r) → Takes s r)
    (hswap : ∀ {a b x}, bound (a ++ q) = some (x, b ++ q) → bound (a ++ t) = some (x, b ++ t)) {first last : α}
    (h : range? bound (a ++ q) = some ((first, last), q)) :
    range? bound (a ++ t) = some ((first, last), skipSpacing t) := by
  obtain ⟨r, r', r'', hfirst, hdots, hlast, hskip⟩ := range?_eq_some_iff.mp h
  obtain ⟨d, rfl⟩ := hskip ▸ skipSpacing_isSuffix r''
  obtain ⟨c, rfl⟩ := (List.suffix_append d q).trans (htakes hlast).isSuffix
  obtain ⟨b, b', rfl, hb', -, -, hskip'⟩ := piece_of_skipped (symbol?_takes (by decide) hdots).1.append
  rw [hb'] at hdots
  have hdots' := symbol?_swap hdots t
  rw [(cut_of_takes (htakes hlast)).1.skipSpacing_append, ← hskip' t] at hdots'
  exact range?_eq_some_iff.mpr ⟨_, _, _, hswap hfirst, hdots', hswap hlast, skipSpacing_swap (a := []) hskip t⟩

section

variable (hy : Yields WellFormed expr) (he : Local n expr expr')
include hy he

theorem listLiteral_local : Local (n + 1) (listLiteral expr) (listLiteral expr') := by
  intro a q t x hn hread ht
  rcases listLiteral_eq_some_iff.mp hread with
    ⟨first, last, hrange, rfl⟩ | ⟨-, ⟨first, last, hrange, rfl⟩ | ⟨-, items, hitems, rfl⟩⟩
  · have hrange' := range?_swap integer?_takes (fun h => integer?_swap h (ht.word.append _)) hrange
    exact listLiteral_eq_some_iff.mpr (.inl ⟨first, last, hrange', rfl⟩)
  · have hrange' := range?_swap (fun h => (letter?_takes h).2) (fun h => letter?_swap h t) hrange
    have hnumber : range? integer? (a ++ t) = none := by
      obtain ⟨r, -, -, hfirst, -⟩ := range?_eq_some_iff.mp hrange'
      rw [(letter?_eq_some_iff.mp hfirst).2]
      exact range?_absent (integer?_of_stops (Stops.cons rfl) (Stops.cons rfl))
    exact listLiteral_eq_some_iff.mpr (.inr ⟨hnumber, .inl ⟨first, last, hrange', rfl⟩⟩)
  · have hitems' := enclosed_closed hy he (by decide) rfl (by decide) (by decide) a q t items hn hitems
    obtain ⟨r, hopen, -⟩ := enclosed_eq_some_iff.mp hitems'
    obtain ⟨r', hs, -⟩ := symbol?_eq_some_iff.mp hopen
    have hnone : NoRange (a ++ t) := by
      rw [hs]
      exact noRange_of_stops (Stops.cons rfl)
    exact listLiteral_eq_some_iff.mpr (.inr ⟨hnone.1, .inr ⟨hnone.2, items, hitems', rfl⟩⟩)

end

/-! ## Literals -/

theorem stops_of_double? {x : Double} {r : List Char} (h : double? s = some (x, r)) {p : Char → Bool}
    (hminus : p '-' = false) (hdigit : ∀ c, isDigit c = true → p c = false) : Stops p s := by
  obtain ⟨negative, whole, places, -, hne, hds, -, -, rfl, -⟩ := double?_eq_some_iff.mp h
  exact stops_number hminus hdigit negative hne hds _

theorem stops_of_integer? {m : Int64} {r : List Char} (h : integer? s = some (m, r)) {p : Char → Bool}
    (hminus : p '-' = false) (hdigit : ∀ c, isDigit c = true → p c = false) : Stops p s := by
  obtain ⟨negative, ds, -, hne, hds, rfl, -⟩ := integer?_eq_some_iff.mp h
  exact stops_number hminus hdigit negative hne hds _

theorem digit_not_letter (c : Char) (h : isDigit c = true) : isLetter c = false := by
  refine Bool.eq_false_iff.mpr fun hletter => ?_
  exact Bool.noConfusion (h.symm.trans (letter_not_digit hletter))

theorem scalar_local : Local n scalar scalar := by
  intro a q t l _ hread ht
  have ha : a ≠ [] := ne_nil_of_takes (scalar_yields _ _ _ hread).2.1
  rcases scalar_eq_some_iff.mp hread with ⟨hstring, hread⟩ | ⟨text, r, hstring, rfl, hskip⟩
  · refine scalar_eq_some_iff.mpr (.inl ⟨string?_none_swap ha t hstring, ?_⟩)
    rcases hread with ⟨htrue, rfl⟩ | ⟨-, hread⟩
    · exact .inl ⟨keyword?_swap (a := []) (by decide) htrue ht.word, rfl⟩
    rcases hread with ⟨hfalse, rfl⟩ | ⟨-, hread⟩
    · have hfalse' := keyword?_swap (a := []) (by decide) hfalse ht.word
      have htrue' := keyword?_apart "true" (by decide) (by decide) (by decide) hfalse'
      exact .inr ⟨htrue', .inl ⟨hfalse', rfl⟩⟩
    rcases hread with ⟨x, r, hfraction, rfl, hskip⟩ | ⟨-, hread⟩
    · obtain ⟨b, rfl⟩ := hskip ▸ skipSpacing_isSuffix r
      have hfraction' := double?_swap hfraction (ht.word.append b)
      have hletter : Stops isLetter (a ++ t) := stops_of_double? hfraction' rfl digit_not_letter
      exact .inr ⟨keyword?_of_stops "true" hletter rfl, .inr ⟨keyword?_of_stops "false" hletter rfl,
        .inl ⟨x, _, hfraction', rfl, (ht.skipped hskip).2⟩⟩⟩
    rcases hread with ⟨m, r, hnumber, rfl, hskip⟩ | ⟨-, hnull, rfl⟩
    · obtain ⟨b, rfl⟩ := hskip ▸ skipSpacing_isSuffix r
      obtain ⟨hhalts, hskip'⟩ := ht.skipped hskip
      have hnumber' := integer?_swap hnumber (ht.word.append b)
      have hletter : Stops isLetter (a ++ t) := stops_of_integer? hnumber' rfl digit_not_letter
      exact .inr ⟨keyword?_of_stops "true" hletter rfl, .inr ⟨keyword?_of_stops "false" hletter rfl,
        .inr ⟨double?_of_integer hnumber' hhalts.fraction, .inl ⟨m, _, hnumber', rfl, hskip'⟩⟩⟩⟩
    · have hnull' := keyword?_swap (a := []) (by decide) hnull ht.word
      have htrue' := keyword?_apart "true" (by decide) (by decide) (by decide) hnull'
      have hfalse' := keyword?_apart "false" (by decide) (by decide) (by decide) hnull'
      obtain ⟨r, hs, -⟩ := (keyword?_eq_some_iff (by decide)).mp hnull'
      have hfraction : double? (a ++ t) = none := by
        rw [hs]
        exact double?_of_stops (Stops.cons rfl) (Stops.cons rfl)
      have hnumber : integer? (a ++ t) = none := by
        rw [hs]
        exact integer?_of_stops (Stops.cons rfl) (Stops.cons rfl)
      exact .inr ⟨htrue', .inr ⟨hfalse', .inr ⟨hfraction, .inr ⟨hnumber, hnull', rfl⟩⟩⟩⟩
  · obtain ⟨b, rfl⟩ := hskip ▸ skipSpacing_isSuffix r
    exact scalar_eq_some_iff.mpr (.inr ⟨text, _, string?_swap hstring t, rfl, (ht.skipped hskip).2⟩)

theorem literal_local : Local n literal literal := by
  intro a q t x hn hread ht
  obtain ⟨l, hl, rfl⟩ := literal_eq_some_iff.mp hread
  exact literal_eq_some_iff.mpr ⟨l, scalar_local a q t l hn hl ht, rfl⟩

/-- A whole number ends at the point of a fraction, which starts no range. -/
theorem range?_of_double? {x : Double} {r : List Char} (h : double? s = some (x, r)) :
    range? integer? s = none := by
  obtain ⟨negative, whole, places, -, hne, hds, hne', hds', rfl, -⟩ := double?_eq_some_iff.mp h
  refine range?_of_bound fun m r' hm => ?_
  simp only [integer?, minus_digits hne hds, digits?_append hne hds (Stops.cons (c := '.') rfl),
    Option.bind_eq_bind, Option.bind_some] at hm
  obtain ⟨value, -, hm⟩ := Option.bind_eq_some_iff.mp hm
  obtain ⟨-, rfl⟩ := Prod.mk.inj (Option.some.inj hm)
  obtain ⟨c, places, rfl⟩ := List.exists_cons_of_ne_nil hne'
  rw [skipSpacing_of_unspaced (.cons _ rfl (by decide))]
  refine Option.eq_none_iff_forall_ne_some.mpr fun after hdots => ?_
  obtain rfl := (List.cons.inj (List.cons.inj (mark?_eq_some_iff.mp hdots)).2).1
  have hpoint := hds' '.' (List.mem_cons_self ..)
  exact absurd hpoint (by decide)

theorem noRange_of_keyword {word : String} (hword : isKeyword word = true) {rest : List Char}
    (h : keyword? word s = some rest) : NoRange s := by
  obtain ⟨r, rfl, -⟩ := (keyword?_eq_some_iff hword).mp h
  have hstart : ∀ w ∈ keywords, w.toList.head?.any isLetter = true := by decide
  have hletter := hstart word (List.contains_iff_mem.mp hword)
  cases hw : word.toList with
  | nil => rw [hw] at hletter; cases hletter
  | cons c w =>
    have hletter : isLetter c = true := by rwa [hw] at hletter
    refine noRange_of_stops (Stops.cons (Bool.eq_false_iff.mpr fun hc => ?_))
    simp only [Bool.or_eq_true, beq_iff_eq] at hc
    rcases hc with (hc | rfl) | rfl
    · exact Bool.noConfusion (hletter.symm.trans (digit_not_letter c hc))
    all_goals exact absurd hletter (by decide)

/-- A literal that no points follow is not taken for a range. -/
theorem noRange_of_scalar {l : Literal} {rest : List Char} (h : scalar s = .ok (some l, rest))
    (hrest : mark? ".." rest = none) : NoRange s := by
  rcases scalar_eq_some_iff.mp h with ⟨hstring, h⟩ | ⟨text, r, hstring, -, hskip⟩
  · rcases h with ⟨htrue, -⟩ | ⟨-, h⟩
    · exact noRange_of_keyword (by decide) htrue
    rcases h with ⟨hfalse, -⟩ | ⟨-, h⟩
    · exact noRange_of_keyword (by decide) hfalse
    have hletter : range? letter? s = none :=
      range?_absent (letter?_of_stops ((string?_eq_none_iff.mp hstring).char rfl))
    rcases h with ⟨x, r, hfraction, -, -⟩ | ⟨-, h⟩
    · exact ⟨range?_of_double? hfraction, hletter⟩
    rcases h with ⟨m, r, hnumber, -, hskip⟩ | ⟨-, hnull, -⟩
    · refine ⟨range?_of_bound fun m' r' hnumber' => ?_, hletter⟩
      obtain ⟨rfl, rfl⟩ := Prod.mk.inj (Option.some.inj (hnumber.symm.trans hnumber'))
      rw [hskip]
      exact hrest
    · exact noRange_of_keyword (by decide) hnull
  · obtain ⟨c, s', hs, hquote⟩ := string?_head hstring
    refine ⟨range?_absent ?_, range?_of_bound fun c r' hletter => ?_⟩
    · rw [hs]
      rcases hquote with rfl | rfl <;> exact integer?_of_stops (Stops.cons rfl) (Stops.cons rfl)
    · have hsame := hstring.symm.trans (string?_of_letter? hletter)
      obtain ⟨-, rfl⟩ := Prod.mk.inj (Except.ok.inj hsame)
      rw [hskip]
      exact hrest

/-! ## Names -/

section

variable (hy : Yields WellFormed expr) (he : Local n expr expr')
include hy he

theorem functionReference_local : Local (n + 1) (functionReference expr) (functionReference expr') := by
  intro a q t x hn hread ht
  obtain ⟨name, r, hname, ⟨args, hargs, rfl⟩ | ⟨hargs, hskip, rfl⟩⟩ := functionReference_eq_some_iff.mp hread
  · obtain ⟨-, ⟨b, hfirm, rfl⟩, -⟩ := arguments_yields hy _ _ _ hargs
    obtain ⟨-, hlen⟩ := cut_of_takes (identifier?_takes hname).2
    have hname' := identifier?_swap hname (SameWord.of_ne_nil hfirm.ne_nil q t)
    have hargs' := arguments_closed hy he b q t args (by omega) hargs
    exact functionReference_eq_some_iff.mpr ⟨name, _, hname', .inl ⟨args, hargs', rfl⟩⟩
  · obtain ⟨b, rfl⟩ := hskip ▸ skipSpacing_isSuffix r
    obtain ⟨hhalts, hskip'⟩ := ht.skipped hskip
    have hname' := identifier?_swap hname (ht.word.append b)
    have hargs' : arguments expr' (b ++ t) = .ok (none, b ++ t) :=
      enclosed_eq_none_iff.mpr (symbol?_of_stops hhalts.bracket rfl)
    exact functionReference_eq_some_iff.mpr ⟨name, _, hname', .inr ⟨hargs', hskip', rfl⟩⟩

theorem selectionStep_local : Local (n + 1) (selectionStep expr) (selectionStep expr') := by
  intro a q t x hn hread ht
  obtain ⟨name, r, hname, ⟨key, hkey, rfl⟩ | ⟨hkey, hread⟩⟩ := selectionStep_eq_some_iff.mp hread
  · obtain ⟨-, ⟨b, hfirm, rfl⟩, -⟩ := fixedKey_yields _ _ _ hkey
    have hname' := identifier?_swap hname (SameWord.of_ne_nil hfirm.ne_nil q t)
    have hkey' := fixedKey_closed (n := b.length) b q t key (Nat.le_refl _) hkey
    exact selectionStep_eq_some_iff.mpr ⟨name, _, hname', .inl ⟨key, hkey', rfl⟩⟩
  · have hread' := functionReference_local hy he a q t x hn hread ht
    obtain ⟨b, hr, hbracket⟩ : ∃ b, r = b ++ q ∧ Stops (· == '[') (b ++ t) := by
      obtain ⟨_, _, hname', ⟨args, hargs, rfl⟩ | ⟨hargs, hskip, rfl⟩⟩ :=
        functionReference_eq_some_iff.mp hread
      all_goals obtain ⟨rfl, rfl⟩ := Prod.mk.inj (Option.some.inj (hname.symm.trans hname'))
      · obtain ⟨-, ⟨b, hfirm, rfl⟩, -⟩ := arguments_yields hy _ _ _ hargs
        obtain ⟨r', hopen, -⟩ := enclosed_eq_some_iff.mp hargs
        obtain ⟨b, rfl, -⟩ := symbol?_piece (c := '(') rfl hfirm.ne_nil hopen
        exact ⟨_, rfl, Stops.cons rfl⟩
      · obtain ⟨b, rfl⟩ := hskip ▸ skipSpacing_isSuffix r
        exact ⟨b, rfl, (ht.skipped hskip).1.bracket.char rfl⟩
    subst hr
    have hname' := identifier?_swap hname (ht.word.append b)
    exact selectionStep_eq_some_iff.mpr ⟨name, _, hname', .inr ⟨fixedKey_absent hbracket rfl, hread'⟩⟩

end

/-! ### Lists that start as a fixed key does -/

/-- What is left is what is behind the spacing, or something has been taken from there. -/
def AtOrPast (start rest : List Char) : Prop := rest = start ∨ Takes start rest

theorem AtOrPast.past {start r rest : List Char} (h : AtOrPast start r) (hrest : Takes r rest) :
    Takes start rest := by
  rcases h with rfl | h
  · exact hrest
  · exact h.trans hrest

theorem AtOrPast.trans {start r rest : List Char} (h : AtOrPast start r) (hrest : AtOrPast r rest) :
    AtOrPast start rest := by
  rcases hrest with rfl | hrest
  · exact h
  · exact .inr (h.past hrest)

theorem Tail.atOrPast {α : Type} {good : α → Prop} {r rest : List Char} {more : List α}
    (h : Tail good r more rest) : AtOrPast r rest :=
  h.taken.imp (·.2) (·.2.1)

/-- A rule that reads a text that starts with a string reads the string first. -/
def PastString (rule : Rule Expr) : Prop :=
  ∀ s text r x rest, string? s = .ok (some text, r) → rule s = .ok (some x, rest) →
    AtOrPast (skipSpacing r) rest

/-- A rule that reads a text that starts with a bracket reads more than the bracket, and
    more than a string behind it. -/
def PastBracket (rule : Rule Expr) : Prop :=
  ∀ s r x rest, symbol? "[" s = some r → rule s = .ok (some x, rest) →
    Takes r rest ∧ ∀ key r', string? r = .ok (some key, r') → Takes (skipSpacing r') rest

theorem base_pastString : PastString (ruleOf primary expr 0) := by
  intro s text r x rest hstring hread
  obtain ⟨c, s', rfl, hquote⟩ := string?_head hstring
  have hstops : Stops (fun c => c == '(' || c == '[' || c == '\x7b' || isLetter c || isDigit c || c == '-')
      (c :: s') := by
    rcases hquote with rfl | rfl <;> exact Stops.cons rfl
  rcases (orElse_eq_some_iff (parenthesized_stays expr)).mp hread with hread | ⟨-, hread⟩
  · rw [parenthesized_absent (hstops.char rfl)] at hread
    cases hread
  rcases (orElse_eq_some_iff (listLiteral_stays expr)).mp hread with hread | ⟨-, hread⟩
  · have hnumber : integer? (c :: s') = none :=
      integer?_of_stops (hstops.char rfl) (hstops.mono fun c hc => by simp [hc])
    rcases listLiteral_eq_some_iff.mp hread with
      ⟨first, last, hrange, rfl⟩ | ⟨-, ⟨first, last, hrange, rfl⟩ | ⟨-, items, hitems, rfl⟩⟩
    · rw [range?_absent hnumber] at hrange
      cases hrange
    · obtain ⟨r₁, r₂, r₃, hfirst, hdots, hlast, rfl⟩ := range?_eq_some_iff.mp hrange
      have hsame := hstring.symm.trans (string?_of_letter? hfirst)
      obtain ⟨-, rfl⟩ := Prod.mk.inj (Except.ok.inj hsame)
      exact .inr (((symbol?_takes (by decide) hdots).1.trans (letter?_takes hlast).2).skip)
    · rw [enclosed_absent "[" "]" _ (hstops.char (c := '[') rfl) rfl] at hitems
      cases hitems
  rcases (orElse_eq_some_iff (mapLiteral_stays expr)).mp hread with hread | ⟨-, hread⟩
  · rw [mapLiteral_absent (hstops.char (c := '\x7b') rfl)] at hread
    cases hread
  rcases (orElse_eq_some_iff literal_stays).mp hread with hread | ⟨-, hread⟩
  · obtain ⟨l, hl, rfl⟩ := literal_eq_some_iff.mp hread
    rcases scalar_eq_some_iff.mp hl with ⟨hnone, -⟩ | ⟨text', r', hstring', -, rfl⟩
    · rw [hstring] at hnone
      cases hnone
    · obtain ⟨-, rfl⟩ := Prod.mk.inj (Except.ok.inj (hstring.symm.trans hstring'))
      exact .inl rfl
  · obtain ⟨name, r', hname, -⟩ := named_eq_some_iff.mp hread
    rw [identifier?_of_stops (hstops.mono fun c hc => by simp [hc])] at hname
    cases hname

theorem base_pastBracket (hy : Yields WellFormed expr) (hpast : PastString expr) :
    PastBracket (ruleOf primary expr 0) := by
  intro s r x rest hopen hread
  obtain ⟨s', rfl, rfl⟩ := symbol?_eq_some_iff.mp hopen
  have hstops : Stops (fun c => c == '(' || c == '\'' || c == '\x7b' || isLetter c || isDigit c || c == '-')
      ('[' :: s') := Stops.cons rfl
  have hhead : "[".toList ++ s' = '[' :: s' := rfl
  rw [hhead] at hread
  rcases (orElse_eq_some_iff (parenthesized_stays expr)).mp hread with hread | ⟨-, hread⟩
  · rw [parenthesized_absent (hstops.char rfl)] at hread
    cases hread
  rcases (orElse_eq_some_iff (listLiteral_stays expr)).mp hread with hread | ⟨-, hread⟩
  · have hnone : NoRange ('[' :: s') := noRange_of_stops (Stops.cons rfl)
    rcases listLiteral_eq_some_iff.mp hread with
      ⟨first, last, hrange, -⟩ | ⟨-, ⟨first, last, hrange, -⟩ | ⟨-, items, hitems, -⟩⟩
    · rw [hnone.1] at hrange
      cases hrange
    · rw [hnone.2] at hrange
      cases hrange
    obtain ⟨r, hopen', hitems⟩ := enclosed_eq_some_iff.mp hitems
    obtain rfl := Option.some.inj (hopen.symm.trans hopen')
    rcases hitems with ⟨-, hclose⟩ | ⟨-, first, r₁, more, r₂, hfirst, hmore, hclose, -⟩
    · refine ⟨(symbol?_takes (by decide) hclose).1, fun key r' hkey => ?_⟩
      obtain ⟨c, s₁, hs, hquote⟩ := string?_head hkey
      rw [hs] at hclose
      rcases hquote with rfl | rfl <;> cases hclose
    · have htail := (afterCommas_yields hy hmore).atOrPast
      have hclose := (symbol?_takes (by decide) hclose).1
      exact ⟨(hy _ _ _ hfirst).2.1.trans (htail.past hclose), fun key r' hkey =>
        ((hpast _ _ _ _ _ hkey hfirst).trans htail).past hclose⟩
  rcases (orElse_eq_some_iff (mapLiteral_stays expr)).mp hread with hread | ⟨-, hread⟩
  · rw [mapLiteral_absent (hstops.char (c := '\x7b') rfl)] at hread
    cases hread
  rcases (orElse_eq_some_iff literal_stays).mp hread with hread | ⟨-, hread⟩
  · have hnone : literal ('[' :: s') = .ok (none, '[' :: s') := rfl
    rw [hnone] at hread
    cases hread
  · obtain ⟨name, r', hname, -⟩ := named_eq_some_iff.mp hread
    rw [identifier?_of_stops (hstops.mono fun c hc => by simp [hc])] at hname
    cases hname

/-- A rule reads what the tighter one reads, and nothing or more behind it. -/
theorem loosen_atOrPast {tighter : Rule Expr} (hy : Yields WellFormed expr) (ht : Yields WellFormed tighter)
    {k : Nat} {x : Expr} {rest : List Char} (hread : loosen expr k tighter s = .ok (some x, rest))
    (hnot : keyword? "not" s = none) : ∃ e r, tighter s = .ok (some e, r) ∧ AtOrPast r rest := by
  have hlevel : ∀ l, level l tighter s = .ok (some x, rest) →
      ∃ e r, tighter s = .ok (some e, r) ∧ AtOrPast r rest := by
    intro l h
    obtain ⟨first, r, more, hfirst, hmore, -⟩ := level_eq_some_iff.mp h
    exact ⟨first, r, hfirst, (chainTail_yields ht hmore).atOrPast⟩
  unfold loosen at hread
  split at hread
  · obtain ⟨e, r, he, hextend⟩ := behind_eq_some_iff.mp hread
    obtain ⟨steps, hsteps, -⟩ := withSteps_eq_ok_iff.mp hextend
    exact ⟨e, r, he, (parts_yields (fun _ _ => point?_takes) (selectionStep_yields hy) hsteps).atOrPast⟩
  · obtain ⟨e, r, he, hextend⟩ := behind_eq_some_iff.mp hread
    obtain ⟨stages, hstages, -⟩ := withStages_eq_ok_iff.mp hextend
    exact ⟨e, r, he, (parts_yields (fun _ _ => stageMark_takes) (functionReference_yields hy) hstages).atOrPast⟩
  · obtain ⟨e, r, he, ⟨-, rfl, -⟩ | ⟨r₁, yes, r₂, r₃, no, hmark, hyes, hcolon, hno, -⟩⟩ :=
      ternaryRule_eq_some_iff.mp hread
    · exact ⟨e, r, he, .inl rfl⟩
    · exact ⟨e, r, he, .inr ((((symbol?_takes (by decide) hmark).1.trans (hy _ _ _ hyes).2.1).trans
        (symbol?_takes (by decide) hcolon).1).trans (hy _ _ _ hno).2.1)⟩
  · exact hlevel _ hread
  · exact hlevel _ hread
  · rcases negatable_eq_some_iff.mp hread with ⟨-, h⟩ | ⟨r, -, h, -⟩
    · exact ⟨x, rest, h, .inl rfl⟩
    · rw [hnot] at h
      cases h
  all_goals exact hlevel _ hread

section

variable (hy : Yields WellFormed expr) (hyp : Yields WellFormed primary)
include hy hyp

theorem ruleOf_pastString (k : Nat) : PastString (ruleOf primary expr k) := by
  induction k with
  | zero => exact base_pastString
  | succ k ih =>
    intro s text r x rest hstring hread
    have hnot : keyword? "not" s = none := by
      obtain ⟨c, s', rfl, hquote⟩ := string?_head hstring
      rcases hquote with rfl | rfl <;> rfl
    obtain ⟨e, r₁, he, hpast⟩ := loosen_atOrPast hy (ruleOf_yields hy hyp k) hread hnot
    exact (ih s text r e r₁ hstring he).trans hpast

theorem ruleOf_pastBracket (hpast : PastString expr) (k : Nat) : PastBracket (ruleOf primary expr k) := by
  induction k with
  | zero => exact base_pastBracket hy hpast
  | succ k ih =>
    intro s r x rest hopen hread
    have hnot : keyword? "not" s = none := by
      obtain ⟨s', rfl, -⟩ := symbol?_eq_some_iff.mp hopen
      rfl
    obtain ⟨e, r₁, he, hmore⟩ := loosen_atOrPast hy (ruleOf_yields hy hyp k) hread hnot
    obtain ⟨hbracket, hstring⟩ := ih s r e r₁ hopen he
    have hend : ∀ {start}, Takes start r₁ → Takes start rest := fun h => by
      rcases hmore with rfl | hmore
      · exact h
      · exact h.trans hmore
    exact ⟨hend hbracket, fun key r' hkey => hend (hstring key r' hkey)⟩

end

theorem fixedKey_eq_none_iff :
    fixedKey s = .ok (none, s) ↔ ∀ r, symbol? "[" s = some r → string? r = .ok (none, r) ∨
      ∃ key r', string? r = .ok (some key, r') ∧ symbol? "]" (skipSpacing r') = none := by
  unfold fixedKey
  cases hopen : symbol? "[" s with
  | none => simp
  | some r =>
    have hstring : (∃ r', string? r = .ok (none, r')) ↔ string? r = .ok (none, r) :=
      ⟨fun ⟨r', h⟩ => (string?_stays h) ▸ h, fun h => ⟨r, h⟩⟩
    simp [bind_eq_ok, Prod.exists, Option.exists, pure_eq_ok, hstring]
    refine or_congr_right (exists_congr fun key => exists_congr fun r' => and_congr_right fun _ => ?_)
    cases symbol? "]" (skipSpacing r') <;> simp [pure_eq_ok]

/-- Where a name has an argument behind it, no fixed key is found in front of other texts
    either. -/
theorem fixedKey_none_swap (hbracket : PastBracket primary) {x : Expr} {c : List Char} (hb : b ≠ [])
    (hskip : skipSpacing (b ++ q) = c ++ q) (hread : primary (c ++ q) = .ok (some x, q))
    (hkey : fixedKey (b ++ q) = .ok (none, b ++ q)) (t : List Char) : fixedKey (b ++ t) = .ok (none, b ++ t) := by
  cases hopen : symbol? "[" (b ++ q) with
  | none =>
    exact fixedKey_eq_none_iff.mpr fun r hr => by
      rw [symbol?_char_swap "[" rfl hb t hopen] at hr
      cases hr
  | some r =>
    -- the argument is a list: it is read past the string, up to a bracket
    obtain ⟨b', rfl, -⟩ := symbol?_piece (c := '[') rfl hb hopen
    have hsame : '[' :: b' ++ q = c ++ q := by
      rw [← hskip]
      exact (skipSpacing_of_unspaced (.cons _ rfl (by decide))).symm
    obtain rfl := List.append_cancel_right hsame
    obtain ⟨⟨d, hfirm, rfl⟩, hpast⟩ := hbracket _ _ _ _ hopen hread
    have hopen' := symbol?_swap hopen t
    rw [hfirm.skipSpacing_append] at hopen'
    refine fixedKey_eq_none_iff.mpr fun r hr => ?_
    obtain rfl := Option.some.inj (hopen'.symm.trans hr)
    rcases fixedKey_eq_none_iff.mp hkey _ hopen with hnone | ⟨key, r', hstring, hclose⟩
    · exact .inl (string?_none_swap hfirm.ne_nil t hnone)
    · obtain ⟨e, f, rfl, hf, hfirm', -, hskip'⟩ := piece_of_skipped (hpast key r' hstring)
      rw [hf] at hclose
      refine .inr ⟨key, _, string?_swap hstring t, ?_⟩
      rw [hskip']
      exact symbol?_char_swap "]" rfl hfirm'.ne_nil t hclose

section

variable (hy : Yields WellFormed expr) (he : Local n expr expr')
  (hyp : Yields WellFormed primary) (hp : Local n primary primary') (hbracket : PastBracket primary)
  (habsent : ∀ s, Absent 2 s → primary' s = .ok (none, s))
include hy he hyp hp hbracket habsent

theorem named_local : Local (n + 1) (named primary expr) (named primary' expr') := by
  intro a q t x hn hread ht
  obtain ⟨name, r, hname, hread⟩ := named_eq_some_iff.mp hread
  have hnameTakes := (identifier?_takes hname).2
  rcases hread with ⟨key, hkey, rfl⟩ | ⟨hkey, hread⟩
  · obtain ⟨-, ⟨b, hfirm, rfl⟩, -⟩ := fixedKey_yields _ _ _ hkey
    have hname' := identifier?_swap hname (SameWord.of_ne_nil hfirm.ne_nil q t)
    have hkey' := fixedKey_closed (n := b.length) b q t key (Nat.le_refl _) hkey
    exact named_eq_some_iff.mpr ⟨name, _, hname', .inl ⟨key, hkey', rfl⟩⟩
  rcases hread with ⟨args, hargs, rfl⟩ | ⟨hargs, hread⟩
  · obtain ⟨-, ⟨b, hfirm, rfl⟩, -⟩ := arguments_yields hy _ _ _ hargs
    obtain ⟨-, hlen⟩ := cut_of_takes hnameTakes
    have hname' := identifier?_swap hname (SameWord.of_ne_nil hfirm.ne_nil q t)
    have hargs' := arguments_closed hy he b q t args (by omega) hargs
    obtain ⟨r', hopen, -⟩ := enclosed_eq_some_iff.mp hargs
    obtain ⟨b, rfl, -⟩ := symbol?_piece (c := '(') rfl hfirm.ne_nil hopen
    have hkey' : fixedKey ('(' :: b ++ t) = .ok (none, '(' :: b ++ t) := rfl
    exact named_eq_some_iff.mpr ⟨name, _, hname', .inr ⟨hkey', .inl ⟨args, hargs', rfl⟩⟩⟩
  rcases hread with ⟨-, hskip, rfl⟩ | ⟨hminus, argument, hargument, rfl⟩
  · obtain ⟨b, rfl⟩ := hskip ▸ skipSpacing_isSuffix r
    obtain ⟨hhalts, hskip'⟩ := ht.skipped hskip
    have hname' := identifier?_swap hname (ht.word.append b)
    have hkey' : fixedKey (b ++ t) = .ok (none, b ++ t) := fixedKey_absent hhalts.bracket rfl
    have hargs' : arguments expr' (b ++ t) = .ok (none, b ++ t) :=
      enclosed_eq_none_iff.mpr (symbol?_of_stops hhalts.bracket rfl)
    have hnone : (skipSpacing (b ++ t)).head? = some '-' ∨
        ∃ r', primary' (skipSpacing (b ++ t)) = .ok (none, r') := by
      rw [hskip']
      exact ht.argument.imp_right fun h => ⟨_, habsent _ h⟩
    exact named_eq_some_iff.mpr ⟨name, _, hname', .inr ⟨hkey', .inr ⟨hargs', .inl ⟨hnone, hskip', rfl⟩⟩⟩⟩
  · obtain ⟨b, c, rfl, hc, hfirm, hlen, hskip'⟩ := piece_of_skipped (hyp _ _ _ hargument).2.1
    rw [hc] at hargument hminus
    obtain ⟨-, hlen'⟩ := cut_of_takes hnameTakes
    have hb : b ≠ [] := ne_nil_of_length_le hfirm hlen
    have hname' := identifier?_swap hname (SameWord.of_ne_nil hb q t)
    have hkey' := fixedKey_none_swap hbracket hb hc hargument hkey t
    have hargs' : arguments expr' (b ++ t) = .ok (none, b ++ t) :=
      enclosed_eq_none_iff.mpr (symbol?_char_swap "(" rfl hb t (enclosed_eq_none_iff.mp hargs))
    have hminus' : (c ++ t).head? ≠ some '-' := by
      obtain ⟨d, c, rfl⟩ := List.exists_cons_of_ne_nil hfirm.ne_nil
      exact hminus
    have hargument' := hp c q t argument (by omega) hargument ht
    rw [← hskip' t] at hminus' hargument'
    exact named_eq_some_iff.mpr ⟨name, _, hname', .inr ⟨hkey', .inr ⟨hargs', .inr
      ⟨hminus', argument, hargument', rfl⟩⟩⟩⟩

/-- The forms tried ahead of the one that is read start with a character of their own, but
    for ranges, which start as literals do. -/
theorem base_local : Local (n + 1) (ruleOf primary expr 0) (ruleOf primary' expr' 0) := by
  intro a q t x hn hread ht
  have ha : a ≠ [] := ne_nil_of_takes (ruleOf_yields hy hyp 0 _ _ _ hread).2.1
  rcases (orElse_eq_some_iff (parenthesized_stays expr)).mp hread with hread | ⟨hparen, hread⟩
  · exact orElse_of_reads (parenthesized_closed hy he a q t x hn hread)
  have hparen' : parenthesized expr' (a ++ t) = .ok (none, a ++ t) :=
    parenthesized_eq_none_iff.mpr (symbol?_char_swap "(" rfl ha t (parenthesized_eq_none_iff.mp hparen))
  rw [ruleOf, orElse_of_absent hparen', basic]
  rcases (orElse_eq_some_iff (listLiteral_stays expr)).mp hread with hread | ⟨hlist, hread⟩
  · exact orElse_of_reads (listLiteral_local hy he a q t x hn hread ht)
  have hlist' : NoRange (a ++ t) → listLiteral expr' (a ++ t) = .ok (none, a ++ t) := fun h =>
    listLiteral_eq_none_iff.mpr
      ⟨h.1, h.2, symbol?_char_swap "[" rfl ha t (listLiteral_eq_none_iff.mp hlist).2.2⟩
  rcases (orElse_eq_some_iff (mapLiteral_stays expr)).mp hread with hread | ⟨hmap, hread⟩
  · have hread' := mapLiteral_closed hy he a q t x hn hread
    have hnone : NoRange (a ++ t) := by
      obtain ⟨c, s, hs, -⟩ := mapLiteral_brace hread'
      rw [hs]
      exact noRange_of_stops (Stops.cons rfl)
    rw [orElse_of_absent (hlist' hnone), orElse_of_reads hread']
  have hmap' : mapLiteral expr' (a ++ t) = .ok (none, a ++ t) :=
    mapLiteral_eq_none_iff.mpr (symbol?_char_swap "\x7b" rfl ha t (mapLiteral_eq_none_iff.mp hmap))
  rcases (orElse_eq_some_iff literal_stays).mp hread with hread | ⟨hliteral, hread⟩
  · have hread' := literal_local a q t x hn hread ht
    obtain ⟨l, hl, -⟩ := literal_eq_some_iff.mp hread'
    rw [orElse_of_absent (hlist' (noRange_of_scalar hl ht.range)), orElse_of_absent hmap', orElse_of_reads hread']
  · have hread' := named_local hy he hyp hp hbracket habsent a q t x hn hread ht
    obtain ⟨name, r, hname, -⟩ := named_eq_some_iff.mp hread'
    obtain ⟨hisName, hs, hstop⟩ := identifier?_eq_some_iff.mp hname
    have hnone : NoRange (a ++ t) := by
      rw [hs]
      exact noRange_of_stops ((stops_name hisName r).mono fun c hc => by
        simp only [Bool.or_eq_true] at hc
        rcases hc with (hc | hc) | hc <;> simp [opensBase, hc])
    have hliteral' : literal (a ++ t) = .ok (none, a ++ t) := by
      rw [hs]
      exact literal_absent_of_name hisName hstop
    rw [orElse_of_absent (hlist' hnone), orElse_of_absent hmap', orElse_of_absent hliteral', hread']

end

end TemplateEngine.Grammar
