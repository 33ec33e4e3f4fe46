/-
  TemplateEngine.Proofs.Scan.Swap — one piece in front of two texts.

  A piece `p` that is read up to `q`, or up to what stands in `p` in front of `q`, is read up
  to the same place in front of another text `t`. Words and numbers need that `t` does not
  go on with a letter or a digit where `q` did not (`SameWord`); marks, quotes and spacing
  need nothing.
-/

import TemplateEngine.Proofs.Scan.Spelling

namespace TemplateEngine.Scan

/-- The second text starts with a letter or a digit only if the first starts with the same. -/
def SameWord (q t : List Char) : Prop := ∀ c ∈ t.head?, isLetterOrDigit c = true → q.head? = some c

theorem SameWord.append {q t : List Char} (h : SameWord q t) (a : List Char) : SameWord (a ++ q) (a ++ t) := by
  cases a with
  | nil => exact h
  | cons c a => exact fun _ hc _ => hc

theorem SameWord.of_ne_nil {a : List Char} (h : a ≠ []) (q t : List Char) : SameWord (a ++ q) (a ++ t) := by
  obtain ⟨c, a, rfl⟩ := List.exists_cons_of_ne_nil h
  exact fun _ hc _ => hc

theorem Stops.sameWord {p : Char → Bool} {q t : List Char} (h : Stops p q) (hsame : SameWord q t)
    (hp : ∀ c, p c = true → isLetterOrDigit c = true) : Stops p t := by
  refine fun c hc => Bool.eq_false_iff.mpr fun hpc => ?_
  exact Bool.noConfusion ((h c (hsame c hc (hp c hpc))).symm.trans hpc)

/-- Spacing starts with nothing that neither a blank nor a brace is. -/
theorem Spacing.stops {w : List Char} (h : Spacing w) {p : Char → Bool}
    (hp : ∀ c, p c = true → isSpace c = false ∧ c ≠ '\x7b') {t : List Char} (ht : Stops p t) :
    Stops p (w ++ t) := by
  cases h with
  | nil => exact ht
  | blank hc _ =>
    exact Stops.cons (Bool.eq_false_iff.mpr fun h => Bool.noConfusion (hc.symm.trans (hp _ h).1))
  | comment _ _ => exact Stops.cons (Bool.eq_false_iff.mpr fun h => (hp _ h).2 rfl)

/-- Spacing ends a word. -/
theorem Spacing.stopsWord {w : List Char} (h : Spacing w) (hne : w ≠ []) (t : List Char) :
    Stops isLetterOrDigit (w ++ t) := by
  obtain ⟨c, w, rfl⟩ := List.exists_cons_of_ne_nil hne
  have hstops : Stops isLetterOrDigit ((c :: w) ++ []) := h.stops (fun d hd => ?_) Stops.nil
  · exact Stops.cons (hstops c rfl)
  · refine ⟨(firm_letterOrDigit hd [] []).notSpace d rfl, ?_⟩
    rintro rfl
    exact absurd hd (by decide)

theorem Spacing.sameWord {w : List Char} (h : Spacing w) {q t : List Char} (ht : SameWord q t) :
    SameWord q (w ++ t) := by
  by_cases hw : w = []
  · rwa [hw]
  · intro c hc hletter
    exact Bool.noConfusion ((h.stopsWord hw t c hc).symm.trans hletter)

section

variable {p q a : List Char}

theorem Takes.firm (h : Takes (a ++ q) q) : Firm a := by
  obtain ⟨piece, hfirm, ha⟩ := h
  exact List.append_cancel_right ha ▸ hfirm

/-- What spacing is skipped in front of a piece is skipped whatever follows the piece. -/
theorem skipSpacing_swap (h : skipSpacing (p ++ q) = a ++ q) (t : List Char) :
    skipSpacing (p ++ t) = skipSpacing (a ++ t) := by
  obtain ⟨-, w, hw, hp⟩ := spacing_skipSpacing (p ++ q)
  rw [h, ← List.append_assoc] at hp
  rw [List.append_cancel_right hp, List.append_assoc, skipSpacing_append hw]

theorem symbol?_swap {text : String} (h : symbol? text (p ++ q) = some (a ++ q)) (t : List Char) :
    symbol? text (p ++ t) = some (skipSpacing (a ++ t)) := by
  obtain ⟨r, hr, hskip⟩ := symbol?_eq_some_iff.mp h
  obtain ⟨w, rfl⟩ : q <:+ r := (List.suffix_append a q).trans (hskip ▸ skipSpacing_isSuffix r)
  rw [← List.append_assoc] at hr
  rw [List.append_cancel_right hr, List.append_assoc, symbol?_append, skipSpacing_swap hskip]

theorem keyword?_swap {word : String} (hword : isKeyword word = true)
    (h : keyword? word (p ++ q) = some (a ++ q)) {t : List Char} (hsame : SameWord (a ++ q) (a ++ t)) :
    keyword? word (p ++ t) = some (skipSpacing (a ++ t)) := by
  obtain ⟨r, hr, hstop, hskip⟩ := (keyword?_eq_some_iff hword).mp h
  obtain ⟨w, rfl⟩ : a ++ q <:+ r := hskip ▸ skipSpacing_isSuffix r
  rw [← List.append_assoc, ← List.append_assoc] at hr
  rw [← List.append_assoc] at hskip
  rw [List.append_cancel_right hr, List.append_assoc, List.append_assoc,
    keyword?_append hword (hstop.sameWord (hsame.append w) fun _ hc => hc), ← List.append_assoc,
    skipSpacing_swap hskip]

theorem identifier?_swap {name : String} (h : identifier? (p ++ q) = some (name, a ++ q)) {t : List Char}
    (hsame : SameWord (a ++ q) (a ++ t)) : identifier? (p ++ t) = some (name, a ++ t) := by
  obtain ⟨hname, hp, hstop⟩ := identifier?_eq_some_iff.mp h
  rw [← List.append_assoc] at hp
  rw [List.append_cancel_right hp, List.append_assoc]
  exact identifier?_append hname (hstop.sameWord hsame fun _ hc => hc)

theorem letterOrDigit_of_digit (c : Char) (h : isDigit c = true) : isLetterOrDigit c = true := by
  simp [isLetterOrDigit, h]

theorem integer?_swap {n : Int64} (h : integer? (p ++ q) = some (n, a ++ q)) {t : List Char}
    (hsame : SameWord (a ++ q) (a ++ t)) : integer? (p ++ t) = some (n, a ++ t) := by
  obtain ⟨negative, ds, hvalue, hne, hds, hp, hstop⟩ := integer?_eq_some_iff.mp h
  refine integer?_eq_some_iff.mpr ⟨negative, ds, hvalue, hne, hds, ?_,
    hstop.sameWord hsame letterOrDigit_of_digit⟩
  have hp : p ++ q = (sign negative ++ (ds ++ a)) ++ q := by simpa using hp
  rw [List.append_cancel_right hp]
  simp

theorem double?_swap {x : Double} (h : double? (p ++ q) = some (x, a ++ q)) {t : List Char}
    (hsame : SameWord (a ++ q) (a ++ t)) : double? (p ++ t) = some (x, a ++ t) := by
  obtain ⟨negative, whole, places, hvalue, hne, hds, hne', hds', hp, hstop⟩ := double?_eq_some_iff.mp h
  refine double?_eq_some_iff.mpr ⟨negative, whole, places, hvalue, hne, hds, hne', hds', ?_,
    hstop.sameWord hsame letterOrDigit_of_digit⟩
  have hp : p ++ q = (sign negative ++ (whole ++ '.' :: (places ++ a))) ++ q := by simpa using hp
  rw [List.append_cancel_right hp]
  simp

theorem letter?_swap {c : Char} (h : letter? (p ++ q) = some (c, a ++ q)) (t : List Char) :
    letter? (p ++ t) = some (c, a ++ t) := by
  obtain ⟨hc, hp⟩ := letter?_eq_some_iff.mp h
  have hp : p ++ q = ('\'' :: c :: '\'' :: a) ++ q := hp
  rw [List.append_cancel_right hp]
  exact letter?_eq_some_iff.mpr ⟨hc, rfl⟩

theorem string?_swap {text : String} (h : string? (p ++ q) = .ok (some text, a ++ q)) (t : List Char) :
    string? (p ++ t) = .ok (some text, a ++ t) := by
  obtain ⟨piece, -, -, hp, hread⟩ := string?_takes h
  rw [← List.append_assoc] at hp
  rw [List.append_cancel_right hp, List.append_assoc]
  exact hread (a ++ t)

theorem string?_none_swap (hp : p ≠ []) (t : List Char) (h : string? (p ++ q) = .ok (none, p ++ q)) :
    string? (p ++ t) = .ok (none, p ++ t) := by
  obtain ⟨c, p, rfl⟩ := List.exists_cons_of_ne_nil hp
  exact string?_eq_none_iff.mpr (Stops.cons (string?_eq_none_iff.mp h c rfl))

/-- A mark no longer than a piece is found at the piece, or not, whatever follows it. -/
theorem mark?_swap {text : String} (hlen : text.toList.length ≤ p.length) (t : List Char)
    (h : mark? text (p ++ q) = none) : mark? text (p ++ t) = none := by
  refine Option.eq_none_iff_forall_ne_some.mpr fun r hr => ?_
  have hprefix : text.toList <+: p :=
    List.prefix_of_prefix_length_le ⟨r, (mark?_eq_some_iff.mp hr).symm⟩ (List.prefix_append p t) hlen
  obtain ⟨more, rfl⟩ := hprefix
  rw [List.append_assoc, mark?_append] at h
  cases h

theorem symbol?_none_swap {text : String} (hlen : text.toList.length ≤ p.length) (t : List Char)
    (h : symbol? text (p ++ q) = none) : symbol? text (p ++ t) = none := by
  rw [symbol?, Option.map_eq_none_iff] at h ⊢
  exact mark?_swap hlen t h

/-- A mark of one character is found at the front of a piece, or not, whatever follows it. -/
theorem symbol?_char_swap (text : String) {c : Char} (htext : text.toList = [c]) (hp : p ≠ []) (t : List Char)
    (h : symbol? text (p ++ q) = none) : symbol? text (p ++ t) = none := by
  refine symbol?_none_swap ?_ t h
  rw [htext]
  exact List.length_pos_of_ne_nil hp

end

end TemplateEngine.Scan
