/-
  TemplateEngine.Proofs.Json.Tokens — what JSON readers read back.

  A reader reads a text back (`ReadsBack`) if it reads it where anything follows that is no
  part of a number. What holds a text together is in its first character and in the one
  behind it: no text starts with a blank or the end of its container, and what stands behind
  an item, a comma or that end, does not go on with it.

  Proved:
  - `string?_text`: strings, however their characters are written.
  - `readsBack_numeral`: whole numbers.
  - `enclosed?_of_texts`: texts between brackets, with commas between them.
  - `readsBack_member`: the members of an object.
-/

import TemplateEngine.Json.Reader
import TemplateEngine.Proofs.Json.Laws
import TemplateEngine.Proofs.List
import TemplateEngine.Proofs.Scan.Number

namespace TemplateEngine.Json

open Scan (Stops isDigit)

variable {α : Type}

/-- Whether a number may go on with the character. -/
def inNumber (c : Char) : Bool := isDigit c || c == '.' || c == 'e' || c == 'E'

/-- The reader reads the text, all of it and nothing behind it. -/
def ReadsBack (reader : Reader α) (text : List Char) (a : α) : Prop :=
  ∀ rest, Stops inNumber rest → reader (text ++ rest) = some (a, rest)

/-- The text starts with a character that is no blank and does not end a container. -/
def Opens (closing : Char) (text : List Char) : Prop :=
  ∃ c rest, text = c :: rest ∧ isBlank c = false ∧ c ≠ closing

theorem Opens.append {closing : Char} {text : List Char} (h : Opens closing text) (more : List Char) :
    Opens closing (text ++ more) := by
  obtain ⟨c, rest, rfl, hc⟩ := h
  exact ⟨c, rest ++ more, rfl, hc⟩

/-! ## Signs -/

theorem skipBlanks_cons {c : Char} (h : isBlank c = false) (rest : List Char) :
    skipBlanks (c :: rest) = c :: rest := by
  rw [skipBlanks, List.dropWhile_cons, h]
  rfl

theorem sign?_cons {c : Char} (h : isBlank c = false) (rest : List Char) : sign? c (c :: rest) = some rest := by
  rw [sign?, skipBlanks_cons h]
  exact if_pos rfl

theorem sign?_of_opens {closing : Char} {text : List Char} (h : Opens closing text) (rest : List Char) :
    sign? closing (text ++ rest) = none := by
  obtain ⟨c, tail, rfl, hblank, hc⟩ := h
  rw [sign?, List.cons_append, skipBlanks_cons hblank]
  exact if_neg (Ne.symm hc)

/-! ## Strings -/

theorem hexCode?_append {digits : List Char} {code : Nat} (h : Scan.hexCode? digits = some (code, []))
    (rest : List Char) : Scan.hexCode? (digits ++ rest) = some (code, rest) := by
  match digits, h with
  | a :: b :: c :: d :: tail, h =>
    simp only [Scan.hexCode?, Option.bind_eq_bind, Option.bind_eq_some_iff, Option.pure_def, Option.some.injEq,
      Prod.mk.injEq] at h
    obtain ⟨i, ha, j, hb, k, hc, l, hd, hcode, rfl⟩ := h
    simp only [List.cons_append, List.nil_append, Scan.hexCode?, ha, hb, hc, hd, Option.bind_eq_bind,
      Option.bind_some, Option.pure_def, hcode]

theorem charOfCode?_toNat (c : Char) : Scan.charOfCode? c.toNat = some c :=
  Scan.charOfCode?_eq_some_iff.mpr rfl

/-- No character has the code of half a pair. -/
theorem escape?_code {digits : List Char} {c : Char} (h : Scan.hexCode? digits = some (c.toNat, []))
    (rest : List Char) : escape? true ('u' :: (digits ++ rest)) = some (c, rest) := by
  have hvalid : ¬ (0xd800 ≤ c.toNat ∧ c.toNat < 0xdc00) := by
    have : c.toNat.isValidChar := c.valid
    rcases this with hlow | ⟨hhigh, -⟩ <;> omega
  simp only [escape?, hexCode?_append h, Option.bind_eq_bind, Option.bind_some, Bool.and_eq_true,
    decide_eq_true_eq, if_neg hvalid, charOfCode?_toNat]

theorem escape?_pair {digits digits' : List Char} {high low : Nat} {c : Char}
    (h : Scan.hexCode? digits = some (0xd800 + high, [])) (hhigh : high < 0x400)
    (h' : Scan.hexCode? digits' = some (0xdc00 + low, [])) (hlow : low < 0x400)
    (hc : c.toNat = 0x10000 + high * 0x400 + low) (rest : List Char) :
    escape? true ('u' :: (digits ++ '\\' :: 'u' :: (digits' ++ rest))) = some (c, rest) := by
  have hfirst : 0xd800 ≤ 0xd800 + high ∧ 0xd800 + high < 0xdc00 := by omega
  have hsecond : 0xdc00 ≤ 0xdc00 + low ∧ 0xdc00 + low < 0xe000 := by omega
  have hcode : 0x10000 + (0xd800 + high - 0xd800) * 0x400 + (0xdc00 + low - 0xdc00) = c.toNat := by omega
  simp only [escape?, lowHalf?, hexCode?_append h, hexCode?_append h', Option.bind_eq_bind, Option.bind_some,
    Bool.and_eq_true, decide_eq_true_eq, if_pos hfirst, if_pos hsecond, hcode, charOfCode?_toNat, Option.pure_def]

theorem stringRest_escape {c : Char} {s rest : List Char} (h : escape? true s = some (c, rest)) (n : Nat) :
    stringRest true (n + 1) ('\\' :: s) = (stringRest true n rest).map fun p => (c :: p.1, p.2) := by
  rw [stringRest, h]
  simp only [Option.bind_eq_bind, Option.bind_some]
  cases stringRest true n rest <;> rfl

/-- However a character is written inside a string, it is read. -/
theorem stringRest_char {c : Char} {piece : List Char} (h : CharText c piece) (n : Nat) (rest : List Char) :
    stringRest true (n + 1) (piece ++ rest) = (stringRest true n rest).map fun p => (c :: p.1, p.2) := by
  cases h with
  | plain hquote hback hcontrol =>
    rw [List.singleton_append, stringRest]
    · rw [if_neg (Nat.not_lt.mpr hcontrol)]
      cases stringRest true n rest <;> rfl
    · exact hquote
    · exact hback
  | @escape letter _ hletter =>
    refine stringRest_escape ?_ n
    have hnot : letter ≠ 'u' := by
      rintro rfl
      cases hletter
    show escape? true (letter :: rest) = _
    rw [escape?, hletter]
    · rfl
    · exact hnot
  | code hcode => exact stringRest_escape (escape?_code hcode rest) n
  | pair h hhigh h' hlow hc =>
    rw [List.cons_append, List.cons_append, List.append_assoc]
    exact stringRest_escape (escape?_pair h hhigh h' hlow hc rest) n

theorem length_pos_of_charText {c : Char} {piece : List Char} (h : CharText c piece) : 0 < piece.length := by
  cases h <;> exact Nat.zero_lt_succ _

theorem stringRest_pieces {cs : List Char} {pieces : List (List Char)} (h : List.Forall₂ CharText cs pieces)
    (rest : List Char) {n : Nat} (hn : pieces.flatten.length < n) :
    stringRest true n (pieces.flatten ++ '"' :: rest) = some (cs, rest) := by
  induction h generalizing n with
  | nil =>
    obtain ⟨m, rfl⟩ := Nat.exists_eq_add_of_lt hn
    rfl
  | @cons c piece cs pieces hc _ ih =>
    have hpos := length_pos_of_charText hc
    rw [List.flatten_cons, List.length_append] at hn
    obtain ⟨m, rfl⟩ : ∃ m, n = m + 1 := ⟨n - 1, by omega⟩
    rw [List.flatten_cons, List.append_assoc, stringRest_char hc, ih (by omega)]
    rfl

theorem string?_text {s : String} {text : List Char} (h : StringText s text) (rest : List Char) :
    string? true (text ++ rest) = some (s, rest) := by
  obtain ⟨pieces, hpieces, rfl⟩ := h
  have hbody := stringRest_pieces hpieces rest (n := (pieces.flatten ++ '"' :: rest).length + 1)
    (by rw [List.length_append]; omega)
  rw [List.cons_append, List.append_assoc, List.singleton_append, string?, sign?_cons (by decide)]
  simp only [Option.bind_eq_bind, Option.bind_some, hbody, String.ofList_toList]
  rfl

theorem opens_string {closing : Char} (h : closing ≠ '"') {s : String} {text : List Char}
    (htext : StringText s text) : Opens closing text := by
  obtain ⟨pieces, -, rfl⟩ := htext
  exact ⟨'"', _, rfl, rfl, Ne.symm h⟩

/-! ## Whole numbers -/

theorem head?_toDigits {n : Nat} (h : 0 < n) : (Nat.toDigits 10 n).head? ≠ some '0' := by
  induction n using Nat.strongRecOn with
  | ind n ih =>
    by_cases hn : n < 10
    · have hall : ∀ n, n < 10 → 0 < n → n.digitChar ≠ '0' := by decide
      rw [Nat.toDigits_of_lt_base hn, List.head?_cons]
      exact fun hhead => hall n hn h (Option.some.inj hhead)
    · have hfront := ih (n / 10) (by omega) (by omega)
      rw [Nat.toDigits_of_base_le (by decide) (by omega)]
      cases hdigits : Nat.toDigits 10 (n / 10) with
      | nil => exact absurd hdigits Nat.toDigits_ne_nil
      | cons c cs =>
        rw [hdigits] at hfront
        exact hfront

/-- There is no needless zero in front of a number. -/
theorem no_leading_zero (n : Nat) :
    ¬ ((Nat.toDigits 10 n).head? = some '0' ∧ 1 < (Nat.toDigits 10 n).length) := by
  rintro ⟨hhead, hlength⟩
  cases n with
  | zero => exact absurd hlength (by decide)
  | succ n => exact head?_toDigits (Nat.succ_pos n) hhead

/-- A whole number as it is written. -/
def wholeNumeral (n : Int) : Numeral := ⟨decide (n < 0), Nat.toDigits 10 n.natAbs, none, none⟩

/-- What a whole number starts with. -/
def StartsNumber (c : Char) : Prop := c = '-' ∨ isDigit c = true

theorem StartsNumber.ne {c d : Char} (h : StartsNumber c) (hminus : d ≠ '-') (hdigit : isDigit d = false) :
    c ≠ d := by
  rintro rfl
  rcases h with rfl | hc
  · exact hminus rfl
  · exact absurd (hdigit.symm.trans hc) nofun

theorem StartsNumber.not_blank {c : Char} (h : StartsNumber c) : isBlank c = false := by
  unfold isBlank
  simp only [Bool.or_eq_false_iff, beq_eq_false_iff_ne]
  exact ⟨⟨⟨h.ne (by decide) (by decide), h.ne (by decide) (by decide)⟩, h.ne (by decide) (by decide)⟩,
    h.ne (by decide) (by decide)⟩

theorem head_toString (n : Int) : ∃ c rest, (toString n).toList = c :: rest ∧ StartsNumber c := by
  rw [Scan.toList_toString]
  by_cases hneg : n < 0
  · rw [if_pos hneg]
    exact ⟨'-', _, rfl, .inl rfl⟩
  · rw [if_neg hneg, List.nil_append]
    cases hdigits : Nat.toDigits 10 n.natAbs with
    | nil => exact absurd hdigits Nat.toDigits_ne_nil
    | cons c rest => exact ⟨c, rest, rfl, .inr (Scan.isDigit_of_mem_toDigits (hdigits ▸ List.mem_cons_self ..))⟩

theorem digits?_append {ds rest : List Char} (hne : ds ≠ []) (hds : ∀ c ∈ ds, isDigit c = true)
    (hrest : Stops isDigit rest) : digits? (ds ++ rest) = some (ds, rest) := by
  rw [digits?, Scan.digits_eq, Scan.stay, Scan.digits?_append hne hds hrest]

theorem readsBack_numeral (n : Int) : ReadsBack numeral? (toString n).toList (wholeNumeral n) := by
  intro rest hrest
  have hdigits : Stops isDigit rest := hrest.mono fun c hc => by simp [inNumber, hc]
  -- behind the digits there is neither a point nor an exponent
  have hplaces : places? rest = some (none, rest) := by
    unfold places?
    split
    · exact absurd (hrest '.' rfl) (by decide)
    · rfl
  have hexponent : exponent? rest = some (none, rest) := by
    unfold exponent?
    split
    · rename_i c rest
      rw [if_neg]
      rintro (rfl | rfl)
      · exact absurd (hrest 'e' rfl) (by decide)
      · exact absurd (hrest 'E' rfl) (by decide)
    · rfl
  have hread := digits?_append Nat.toDigits_ne_nil
    (fun _ => Scan.isDigit_of_mem_toDigits (n := n.natAbs)) hdigits
  have hzero := no_leading_zero n.natAbs
  unfold numeral?
  rw [Scan.minus_toString]
  simp only [hread, hplaces, hexponent, Option.bind_eq_bind, Option.bind_some, Bool.and_eq_true,
    decide_eq_true_eq, if_neg hzero]
  rfl

/-! ## Containers -/

/-- Each text is read back as the thing beside it. -/
abbrev AllReadBack (item : Reader α) (closing : Char) : List (List Char) → List α → Prop :=
  List.Forall₂ fun text a => Opens closing text ∧ ReadsBack item text a

theorem flatMap_comma (text : List Char) (texts : List (List Char)) (rest : List Char) :
    (text :: texts).flatMap (',' :: ·) ++ rest = ',' :: (text ++ (texts.flatMap (',' :: ·) ++ rest)) := by
  rw [List.flatMap_cons, List.cons_append, List.cons_append, List.append_assoc]

theorem intercalate_comma (text : List Char) (texts : List (List Char)) :
    [','].intercalate (text :: texts) = text ++ texts.flatMap (',' :: ·) := by
  induction texts generalizing text with
  | nil => rw [List.intercalate_singleton, List.flatMap_nil, List.append_nil]
  | cons next texts ih =>
    rw [List.intercalate_cons_cons, ih, List.append_assoc, List.flatMap_cons]
    rfl

/-- A number ends where another item or the end of the container comes. -/
theorem stops_further {closing : Char} (h : inNumber closing = false) (texts : List (List Char)) (rest : List Char) :
    Stops inNumber (texts.flatMap (',' :: ·) ++ closing :: rest) := by
  cases texts with
  | nil => exact .cons h
  | cons => exact .cons rfl

section

variable {item : Reader α} {opening closing : Char} {texts : List (List Char)} {found : List α}
  (hblank : isBlank closing = false) (hnumber : inNumber closing = false)
include hblank hnumber

theorem further_of_texts (hcomma : closing ≠ ',') (h : AllReadBack item closing texts found) (rest : List Char)
    {n : Nat} (hn : texts.length < n) :
    further item closing n (texts.flatMap (',' :: ·) ++ closing :: rest) = some (found, rest) := by
  induction h generalizing n with
  | nil =>
    obtain ⟨m, rfl⟩ := Nat.exists_eq_add_of_lt hn
    rw [List.flatMap_nil, List.nil_append, further, sign?_cons hblank]
  | @cons text a texts found hfirst _ ih =>
    obtain ⟨-, hread⟩ := hfirst
    cases n with
    | zero => exact absurd hn (Nat.not_lt_zero _)
    | succ n =>
      have hopens : Opens closing [','] := ⟨',', [], rfl, rfl, Ne.symm hcomma⟩
      have hclosing (s : List Char) : sign? closing (',' :: s) = none := sign?_of_opens hopens s
      rw [flatMap_comma, further, hclosing]
      simp only [sign?_cons (show isBlank ',' = false from rfl), Option.bind_eq_bind, Option.bind_some,
        hread _ (stops_further hnumber texts rest), ih (Nat.lt_of_succ_lt_succ hn)]
      rfl

theorem enclosed?_of_texts (hcomma : closing ≠ ',') (hopening : isBlank opening = false)
    (h : AllReadBack item closing texts found) (rest : List Char) :
    enclosed? opening closing item (opening :: ([','].intercalate texts ++ closing :: rest)) =
      some (found, rest) := by
  unfold enclosed?
  rw [sign?_cons hopening]
  cases h with
  | nil =>
    simp only [List.intercalate_nil, List.nil_append, Option.bind_eq_bind, Option.bind_some, sign?_cons hblank]
    rfl
  | @cons text a texts found hfirst hmore =>
    obtain ⟨hopens, hread⟩ := hfirst
    have hlength := length_le_length_flatMap (f := fun text : List Char => ',' :: text) texts
      fun _ => Nat.zero_lt_succ _
    have hmore := further_of_texts hblank hnumber hcomma hmore rest
      (n := (texts.flatMap (',' :: ·) ++ closing :: rest).length + 1) (by rw [List.length_append]; omega)
    rw [intercalate_comma, List.append_assoc]
    simp only [Option.bind_eq_bind, Option.bind_some, sign?_of_opens hopens,
      hread _ (stops_further hnumber texts rest), hmore]
    rfl

end

/-! ## Members -/

theorem readsBack_member {value : Reader α} {name text : List Char} {key : String} {a : α}
    (hname : StringText key name) (h : ReadsBack value text a) :
    ReadsBack (member? true value) (name ++ ':' :: text) (key, a) := by
  intro rest hrest
  unfold member?
  rw [List.append_assoc, List.cons_append, string?_text hname]
  simp only [Option.bind_eq_bind, Option.bind_some, sign?_cons (show isBlank ':' = false from rfl), h rest hrest]
  rfl

end TemplateEngine.Json
