/-
  TemplateEngine.Proofs.Scan.Token — what a scanner takes from a text.

  What is read is a piece at the front of the text (`Takes`). A word or a number ends where
  no further character of its kind follows, and it is the same word or number in front of
  any other text that ends it.

  Proved:
  - `identifier?_eq_some_iff`, `keyword?_eq_some_iff`, `integer?_eq_some_iff`,
    `double?_eq_some_iff`, `letter?_eq_some_iff`: the pieces that are read, and what ends them.
-/

import TemplateEngine.Proofs.Except
import TemplateEngine.Proofs.Scan.Number
import TemplateEngine.Proofs.Scan.StringLiteral

namespace TemplateEngine.Scan

open TemplateEngine.Except

/-! ## Pieces of a text -/

/-- Neither a blank nor a comment starts with this piece, whatever follows it. -/
def Firm (piece : List Char) : Prop := ∀ t, Unspaced (piece ++ t)

/-- A piece that is no spacing is taken from `s`, and `rest` is left. -/
def Takes (s rest : List Char) : Prop := ∃ piece, Firm piece ∧ s = piece ++ rest

namespace Firm

theorem ne_nil {piece : List Char} (h : Firm piece) : piece ≠ [] := by
  rintro rfl
  have : isSpace ' ' = false := (h [' ']).notSpace ' ' rfl
  cases this

theorem append {piece : List Char} (h : Firm piece) (more : List Char) : Firm (piece ++ more) := by
  intro t
  rw [List.append_assoc]
  exact h (more ++ t)

theorem cons {c : Char} (hspace : isSpace c = false) (hbrace : c ≠ '\x7b') (piece : List Char) :
    Firm (c :: piece) := fun t => .cons (piece ++ t) hspace hbrace

theorem brace {c : Char} (h : c ≠ '#') (piece : List Char) : Firm ('\x7b' :: c :: piece) := by
  intro t
  refine ⟨fun _ hc => Option.some.inj hc ▸ rfl, Option.eq_none_iff_forall_ne_some.mpr fun rest hread => ?_⟩
  obtain ⟨body, hbody⟩ := comment?_head hread
  exact h (List.cons.inj (List.cons.inj hbody).2).1

theorem skipSpacing_append {piece : List Char} (h : Firm piece) (t : List Char) :
    skipSpacing (piece ++ t) = piece ++ t := skipSpacing_of_unspaced (h t)

end Firm

namespace Takes

variable {s r rest : List Char}

theorem append {more : List Char} (h : Takes s (more ++ rest)) : Takes s rest := by
  obtain ⟨piece, hfirm, hs⟩ := h
  exact ⟨piece ++ more, hfirm.append more, by rw [hs, List.append_assoc]⟩

theorem suffix (h : Takes s r) (hrest : rest <:+ r) : Takes s rest := by
  obtain ⟨more, rfl⟩ := hrest
  exact h.append

theorem isSuffix (h : Takes s rest) : rest <:+ s := by
  obtain ⟨piece, -, hs⟩ := h
  exact ⟨piece, hs.symm⟩

theorem trans (h : Takes s r) (h' : Takes r rest) : Takes s rest := h.suffix h'.isSuffix

theorem length_lt (h : Takes s rest) : rest.length < s.length := by
  obtain ⟨piece, hfirm, rfl⟩ := h
  have := List.length_pos_of_ne_nil hfirm.ne_nil
  rw [List.length_append]
  omega

end Takes

theorem skipSpacing_isSuffix (s : List Char) : skipSpacing s <:+ s := by
  obtain ⟨-, w, -, hs⟩ := spacing_skipSpacing s
  exact ⟨w, hs.symm⟩

theorem Takes.skip {s r : List Char} (h : Takes s r) : Takes s (skipSpacing r) :=
  h.suffix (skipSpacing_isSuffix r)

/-! ## Marks and words -/

theorem mark?_eq_some_iff {text : String} {s rest : List Char} :
    mark? text s = some rest ↔ s = text.toList ++ rest := Text.after?_eq_some_iff

theorem symbol?_eq_some_iff {text : String} {s rest : List Char} :
    symbol? text s = some rest ↔ ∃ r, s = text.toList ++ r ∧ skipSpacing r = rest := by
  rw [symbol?, Option.map_eq_some_iff]
  exact exists_congr fun r => and_congr_left fun _ => mark?_eq_some_iff

theorem symbol?_length_le {text : String} {s rest : List Char} (h : symbol? text s = some rest) :
    text.toList.length + rest.length ≤ s.length := by
  obtain ⟨r, rfl, rfl⟩ := symbol?_eq_some_iff.mp h
  have := (skipSpacing_isSuffix r).length_le
  rw [List.length_append]
  omega

/-- The mark starts with a character that neither a blank nor a comment starts with. -/
def startsFirm (text : String) : Bool := text.toList.head?.any fun c => !isSpace c && c != '\x7b'

theorem firm_of_startsFirm {text : String} (h : startsFirm text = true) : Firm text.toList := by
  unfold startsFirm at h
  cases htext : text.toList with
  | nil => rw [htext] at h; cases h
  | cons c t =>
    rw [htext] at h
    have hc : isSpace c = false ∧ c ≠ '\x7b' := by simpa using h
    exact .cons hc.1 hc.2 t

theorem symbol?_takes {text : String} (htext : startsFirm text = true) {s rest : List Char}
    (h : symbol? text s = some rest) : Takes s rest ∧ Unspaced rest := by
  obtain ⟨r, rfl, rfl⟩ := symbol?_eq_some_iff.mp h
  exact ⟨Takes.skip ⟨_, firm_of_startsFirm htext, rfl⟩, unspaced_skipSpacing r⟩

theorem run_eq_iff {p : Char → Bool} {s run rest : List Char} :
    s.takeWhile p = run ∧ s.dropWhile p = rest ↔
      (∀ c ∈ run, p c = true) ∧ s = run ++ rest ∧ Stops p rest := by
  constructor
  · rintro ⟨rfl, rfl⟩
    exact ⟨List.all_eq_true.mp List.all_takeWhile, List.takeWhile_append_dropWhile.symm, stops_dropWhile⟩
  · rintro ⟨hrun, rfl, hrest⟩
    exact ⟨takeWhile_run hrun hrest, dropWhile_run hrun hrest⟩

theorem keyword?_eq_some_iff {word : String} (h : isKeyword word = true) {s rest : List Char} :
    keyword? word s = some rest ↔
      ∃ r, s = word.toList ++ r ∧ Stops isLetterOrDigit r ∧ skipSpacing r = rest := by
  have hletters := keyword_letters h
  rw [keyword?, Option.map_eq_some_iff]
  refine exists_congr fun r => ?_
  rw [wordEnd?_eq_some_iff hletters, run_eq_iff, and_assoc, and_assoc]
  exact and_iff_right hletters

/-- No other keyword stands where one stands. -/
theorem keyword?_apart {word : String} (other : String) (hword : isKeyword word = true)
    (hother : isKeyword other = true) (hne : other ≠ word) {s rest : List Char} (h : keyword? word s = some rest) :
    keyword? other s = none := by
  obtain ⟨r, rfl, hstop, -⟩ := (keyword?_eq_some_iff hword).mp h
  refine keyword?_of_takeWhile hother fun htake => hne (String.toList_injective ?_)
  rw [← htake, takeWhile_run (keyword_letters hword) hstop]

theorem identifier?_eq_some_iff {s rest : List Char} {name : String} :
    identifier? s = some (name, rest) ↔
      isName name = true ∧ s = name.toList ++ rest ∧ Stops isLetterOrDigit rest := by
  constructor
  · intro h
    simp only [identifier?] at h
    split at h
    · rename_i hread
      obtain ⟨hhead, hkey⟩ := Bool.and_eq_true_iff.mp hread
      obtain ⟨rfl, rfl⟩ := Prod.mk.inj (Option.some.inj h)
      have hrun : (∀ c ∈ s.takeWhile isLetterOrDigit, isLetterOrDigit c = true) ∧ _ ∧ _ :=
        run_eq_iff.mp ⟨rfl, rfl⟩
      refine ⟨isName_iff.mpr ⟨?_, ?_, ?_⟩, ?_, hrun.2.2⟩
      · cases s with
        | nil => cases hhead
        | cons c t =>
          have hc : isLetter c = true := hhead
          refine ⟨c, t.takeWhile isLetterOrDigit, ?_, hc⟩
          rw [String.toList_ofList, List.takeWhile_cons, isLetterOrDigit, hc]
          rfl
      · rw [String.toList_ofList]; exact hrun.1
      · simpa using hkey
      · rw [String.toList_ofList]; exact hrun.2.1
    · cases h
  · rintro ⟨hname, rfl, hrest⟩
    exact identifier?_append hname hrest

/-- A letter or a digit is no spacing. -/
theorem firm_letterOrDigit {c : Char} (h : isLetterOrDigit c = true) (piece : List Char) :
    Firm (c :: piece) := by
  refine .cons (Bool.eq_false_iff.mpr fun hspace => ?_) ?_ piece
  · simp only [isSpace, Bool.or_eq_true, beq_iff_eq] at hspace
    rcases hspace with (((rfl | rfl) | rfl) | rfl) | rfl <;> exact absurd h (by decide)
  · rintro rfl
    exact absurd h (by decide)

theorem firm_name {name : String} (h : isName name = true) : Firm name.toList := by
  obtain ⟨⟨c, t, hname, hc⟩, -⟩ := isName_iff.mp h
  rw [hname]
  exact firm_letterOrDigit (by simp [isLetterOrDigit, hc]) t

theorem firm_keyword {word : String} (h : isKeyword word = true) : Firm word.toList := by
  have hne : ∀ w ∈ keywords, w.toList ≠ [] := by decide
  cases hw : word.toList with
  | nil => exact absurd hw (hne word (List.contains_iff_mem.mp h))
  | cons c t => exact firm_letterOrDigit (keyword_letters h c (hw ▸ List.mem_cons_self ..)) t

theorem identifier?_takes {s rest : List Char} {name : String} (h : identifier? s = some (name, rest)) :
    isName name = true ∧ Takes s rest := by
  obtain ⟨hname, hs, -⟩ := identifier?_eq_some_iff.mp h
  exact ⟨hname, _, firm_name hname, hs⟩

theorem keyword?_takes {word : String} (hword : isKeyword word = true) {s rest : List Char}
    (h : keyword? word s = some rest) : Takes s rest ∧ Unspaced rest := by
  obtain ⟨r, rfl, -, rfl⟩ := (keyword?_eq_some_iff hword).mp h
  exact ⟨Takes.skip ⟨_, firm_keyword hword, rfl⟩, unspaced_skipSpacing r⟩

/-! ## Numbers -/

theorem digits?_eq_some_iff {s ds rest : List Char} :
    digits? s = some (ds, rest) ↔ ds ≠ [] ∧ (∀ c ∈ ds, isDigit c = true) ∧ s = ds ++ rest ∧ Stops isDigit rest := by
  constructor
  · intro h
    unfold digits? at h
    split at h
    · cases h
    · rename_i hne
      obtain ⟨rfl, rfl⟩ := Prod.mk.inj (Option.some.inj h)
      exact ⟨hne, run_eq_iff.mp ⟨rfl, rfl⟩⟩
  · rintro ⟨hne, hds, rfl, hrest⟩
    exact digits?_append hne hds hrest

def sign (negative : Bool) : List Char := if negative then ['-'] else []

theorem minus_digits {ds : List Char} (hne : ds ≠ []) (hds : ∀ c ∈ ds, isDigit c = true) (negative : Bool)
    (t : List Char) : minus (sign negative ++ (ds ++ t)) = (negative, ds ++ t) := by
  cases negative with
  | true => rfl
  | false =>
    refine minus_of_stops ?_
    obtain ⟨c, cs, rfl⟩ := List.exists_cons_of_ne_nil hne
    refine Stops.cons (beq_eq_false_iff_ne.mpr ?_)
    rintro rfl
    exact absurd (hds '-' (List.mem_cons_self ..)) (by decide)

theorem minus_eq (s : List Char) : s = sign (minus s).1 ++ (minus s).2 := by
  unfold minus
  split <;> rfl

/-- The word that digits with a sign stand for. -/
def signed? (negative : Bool) (ds : List Char) : Option Int64 :=
  word? (if negative then -(Decimal.digitsValue ds : Int) else Decimal.digitsValue ds)

theorem integer?_eq_some_iff {s rest : List Char} {n : Int64} :
    integer? s = some (n, rest) ↔ ∃ negative ds, signed? negative ds = some n ∧ ds ≠ [] ∧
      (∀ c ∈ ds, isDigit c = true) ∧ s = sign negative ++ (ds ++ rest) ∧ Stops isDigit rest := by
  constructor
  · intro h
    rw [minus_eq s]
    unfold integer? at h
    generalize minus s = m at h ⊢
    obtain ⟨negative, unsigned⟩ := m
    obtain ⟨⟨ds, r⟩, hdigits, h⟩ := Option.bind_eq_some_iff.mp h
    obtain ⟨value, hvalue, h⟩ := Option.bind_eq_some_iff.mp h
    obtain ⟨rfl, rfl⟩ := Prod.mk.inj (Option.some.inj h)
    obtain ⟨hne, hds, rfl, hstop⟩ := digits?_eq_some_iff.mp hdigits
    exact ⟨negative, ds, hvalue, hne, hds, rfl, hstop⟩
  · rintro ⟨negative, ds, hvalue, hne, hds, rfl, hrest⟩
    simp only [integer?, minus_digits hne hds, digits?_append hne hds hrest, Option.bind_eq_bind,
      Option.bind_some]
    rw [signed?] at hvalue
    rw [hvalue]
    rfl

/-- The double that digits around a point stand for. -/
def fraction (negative : Bool) (whole places : List Char) : Double :=
  Double.ofRatio negative (Decimal.digitsValue (whole ++ places)) (Nat.pow 10 places.length)

theorem double?_eq_some_iff {s rest : List Char} {x : Double} :
    double? s = some (x, rest) ↔ ∃ negative whole places, fraction negative whole places = x ∧
      whole ≠ [] ∧ (∀ c ∈ whole, isDigit c = true) ∧ places ≠ [] ∧ (∀ c ∈ places, isDigit c = true) ∧
        s = sign negative ++ (whole ++ '.' :: (places ++ rest)) ∧ Stops isDigit rest := by
  constructor
  · intro h
    rw [minus_eq s]
    unfold double? at h
    generalize minus s = m at h ⊢
    obtain ⟨negative, unsigned⟩ := m
    obtain ⟨⟨whole, r⟩, hwhole, h⟩ := Option.bind_eq_some_iff.mp h
    obtain ⟨r', hpoint, h⟩ := Option.bind_eq_some_iff.mp h
    obtain ⟨⟨places, r''⟩, hplaces, h⟩ := Option.bind_eq_some_iff.mp h
    obtain ⟨rfl, rfl⟩ := Prod.mk.inj (Option.some.inj h)
    obtain ⟨hne, hds, rfl, -⟩ := digits?_eq_some_iff.mp hwhole
    obtain rfl : r = '.' :: r' := mark?_eq_some_iff.mp hpoint
    obtain ⟨hne', hds', rfl, hstop⟩ := digits?_eq_some_iff.mp hplaces
    exact ⟨negative, whole, places, rfl, hne, hds, hne', hds', rfl, hstop⟩
  · rintro ⟨negative, whole, places, rfl, hne, hds, hne', hds', rfl, hrest⟩
    have hpoint : mark? "." ('.' :: (places ++ rest)) = some (places ++ rest) := mark?_append "." _
    simp only [double?, minus_digits hne hds, digits?_append hne hds (Stops.cons (c := '.') rfl), hpoint,
      digits?_append hne' hds' hrest, Option.bind_eq_bind, Option.bind_some]
    rfl

theorem firm_number (negative : Bool) {ds : List Char} (hne : ds ≠ []) (hds : ∀ c ∈ ds, isDigit c = true) :
    Firm (sign negative ++ ds) := by
  cases negative with
  | true => exact .cons rfl (by decide) ds
  | false =>
    obtain ⟨c, cs, rfl⟩ := List.exists_cons_of_ne_nil hne
    exact firm_letterOrDigit (by simp [isLetterOrDigit, hds c (List.mem_cons_self ..)]) cs

theorem integer?_takes {s rest : List Char} {n : Int64} (h : integer? s = some (n, rest)) : Takes s rest := by
  obtain ⟨negative, ds, -, hne, hds, rfl, -⟩ := integer?_eq_some_iff.mp h
  exact ⟨_, firm_number negative hne hds, (List.append_assoc ..).symm⟩

theorem double?_takes {s rest : List Char} {x : Double} (h : double? s = some (x, rest)) : Takes s rest := by
  obtain ⟨negative, whole, places, -, hne, hds, -, -, rfl, -⟩ := double?_eq_some_iff.mp h
  refine ⟨_, (firm_number negative hne hds).append ('.' :: places), ?_⟩
  simp

theorem stops_number {p : Char → Bool} (hminus : p '-' = false) (hdigit : ∀ c, isDigit c = true → p c = false)
    (negative : Bool) {ds : List Char} (hne : ds ≠ []) (hds : ∀ c ∈ ds, isDigit c = true) (t : List Char) :
    Stops p (sign negative ++ (ds ++ t)) := by
  cases negative with
  | true => exact Stops.cons hminus
  | false =>
    obtain ⟨c, cs, rfl⟩ := List.exists_cons_of_ne_nil hne
    exact Stops.cons (hdigit c (hds c (List.mem_cons_self ..)))

/-- A whole number that no digits behind a point follow is no fraction. -/
theorem double?_of_integer {s rest : List Char} {n : Int64} (h : integer? s = some (n, rest))
    (hpoint : ∀ places, mark? "." rest = some places → Stops isDigit places) : double? s = none := by
  obtain ⟨negative, ds, -, hne, hds, rfl, hrest⟩ := integer?_eq_some_iff.mp h
  simp only [double?, minus_digits hne hds, digits?_append hne hds hrest, Option.bind_eq_bind,
    Option.bind_some]
  cases hmark : mark? "." rest with
  | none => rfl
  | some places => rw [Option.bind_some, digits?_of_stops (hpoint places hmark)]; rfl

/-! ## Quotes -/

theorem letter?_eq_some_iff {s rest : List Char} {c : Char} :
    letter? s = some (c, rest) ↔ isAsciiLetter c = true ∧ s = '\'' :: c :: '\'' :: rest := by
  constructor
  · intro h
    unfold letter? at h
    split at h
    · split at h
      · rename_i hc
        obtain ⟨rfl, rfl⟩ := Prod.mk.inj (Option.some.inj h)
        exact ⟨hc, rfl⟩
      · cases h
    · cases h
  · rintro ⟨hc, rfl⟩
    exact if_pos hc

theorem letter?_takes {s rest : List Char} {c : Char} (h : letter? s = some (c, rest)) :
    isAsciiLetter c = true ∧ Takes s rest := by
  obtain ⟨hc, rfl⟩ := letter?_eq_some_iff.mp h
  exact ⟨hc, ['\'', c, '\''], .cons rfl (by decide) _, rfl⟩

theorem stringBody_asciiLetter {c : Char} (h : isAsciiLetter c = true) (start rest : List Char) (n : Nat) :
    stringBody '\'' start (n + 2) (c :: '\'' :: rest) = .ok ([c], rest) := by
  have hquote : c ≠ '\'' := by rintro rfl; exact absurd h (by decide)
  have hback : c ≠ '\\' := by rintro rfl; exact absurd h (by decide)
  have hline : ¬ (c = '\r' ∨ c = '\n') := by rintro (rfl | rfl) <;> exact absurd h (by decide)
  simp only [stringBody, if_neg hquote, if_neg hback, if_neg hline, if_true]
  rfl

/-- A letter between quotes is a string, too. -/
theorem string?_of_letter? {s rest : List Char} {c : Char} (h : letter? s = some (c, rest)) :
    string? s = .ok (some (String.ofList [c]), rest) := by
  obtain ⟨hc, rfl⟩ := letter?_eq_some_iff.mp h
  have hbody := stringBody_asciiLetter hc ('\'' :: c :: '\'' :: rest) rest ((rest.length + 1))
  simp only [string?, List.length_cons, or_true, if_true, hbody, Except.bind, bind]
  rfl

end TemplateEngine.Scan
