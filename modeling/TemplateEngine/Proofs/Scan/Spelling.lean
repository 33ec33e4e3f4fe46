/-
  TemplateEngine.Proofs.Scan.Spelling — what stands between two quotes, and for which text.

  Between its quotes a string has characters that stand for themselves and escapes that
  stand for one character each (`StandsFor`). How far an escape goes depends on what follows
  it, but not on anything behind the closing quote. Every text has a quoted form, which the
  scanner reads back; and whatever it reads, it has read as just what stands between the
  quotes.

  Proved:
  - `standsFor_of_stringBody`, `stringBody_of_standsFor`: the scanner reads what stands for
    a text, and nothing else.
  - `escape?_takes`, `string?_takes`: an escape is the same whatever stands behind what follows
    it, a string in front of anything.
  - `StandsFor.oneLine`: no line ends between the quotes.
  - `quotation_round_trip`: quoted strings, written and read.
-/

import TemplateEngine.Proofs.Position
import TemplateEngine.Proofs.Scan.Token

namespace TemplateEngine.Scan

open TemplateEngine.Except

/-! ## Escapes -/

theorem octalDigits_congr {s s' : List Char} (h : s.take 3 = s'.take 3) : octalDigits s = octalDigits s' := by
  rw [octalDigits, octalDigits, h]

theorem octalDigits_isPrefix (s : List Char) : octalDigits s <+: s := by
  have hrun : (s.take 3).takeWhile isOctal <+: s :=
    (List.takeWhile_prefix isOctal).trans (List.take_prefix 3 s)
  simp only [octalDigits]
  split
  · exact hrun
  · exact (List.take_prefix 2 _).trans hrun

theorem octalDigits_length_le (s : List Char) : (octalDigits s).length ≤ 3 := by
  have hrun : ((s.take 3).takeWhile isOctal).length ≤ 3 :=
    Nat.le_trans (List.takeWhile_prefix isOctal).length_le (List.length_take_le 3 s)
  simp only [octalDigits]
  split
  · exact hrun
  · exact Nat.le_trans (List.length_take_le 2 _) (by decide)

/-- Octal digits end where the digits before something else end, whatever follows that. -/
theorem octalDigits_append {ds more rest : List Char} (hds : ds ≠ []) (hmore : more ≠ [])
    (h : octalDigits (ds ++ (more ++ rest)) = ds) (t : List Char) :
    octalDigits (ds ++ (more ++ t)) = ds := by
  have hlen := octalDigits_length_le (ds ++ (more ++ rest))
  rw [h] at hlen
  obtain ⟨x, ds, rfl⟩ := List.exists_cons_of_ne_nil hds
  obtain ⟨y, more, rfl⟩ := List.exists_cons_of_ne_nil hmore
  match ds with
  | [] =>
    -- one digit: the next character is none
    have hx : isOctal x = true := by
      refine Decidable.byContradiction fun hx => ?_
      simp [octalDigits, hx] at h
    have hy : isOctal y = false := by
      refine Bool.eq_false_iff.mpr fun hy => ?_
      have hlen := congrArg List.length h
      simp only [octalDigits, List.cons_append, List.nil_append, List.take_succ_cons, List.takeWhile_cons,
        hx, hy, if_true] at hlen
      split at hlen <;> simp at hlen
    simp [octalDigits, hx, hy]
  | [x'] => exact Eq.trans (octalDigits_congr rfl) h
  | [x', x''] => exact Eq.trans (octalDigits_congr rfl) h
  | _ :: _ :: _ :: _ =>
    simp only [List.length_cons] at hlen
    omega

theorem hexCode?_takes {s rest : List Char} {n : Nat} (h : hexCode? s = some (n, rest)) :
    ∃ a b c d, s = a :: b :: c :: d :: rest ∧ a ≠ 'u' ∧
      ∀ t, hexCode? (a :: b :: c :: d :: t) = some (n, t) := by
  unfold hexCode? at h
  split at h
  · rename_i a b c d r
    obtain ⟨a', ha, h⟩ := Option.bind_eq_some_iff.mp h
    obtain ⟨b', hb, h⟩ := Option.bind_eq_some_iff.mp h
    obtain ⟨c', hc, h⟩ := Option.bind_eq_some_iff.mp h
    obtain ⟨d', hd, h⟩ := Option.bind_eq_some_iff.mp h
    obtain ⟨rfl, rfl⟩ := Prod.mk.inj (Option.some.inj h)
    refine ⟨a, b, c, d, rfl, ?_, fun t => ?_⟩
    · rintro rfl
      have hnone : hexValue? 'u' = none := by decide
      rw [hnone] at ha
      cases ha
    · simp only [hexCode?, ha, hb, hc, hd, Option.bind_eq_bind, Option.bind_some]
      rfl
  · cases h

section Escapes

variable {x c : Char} {r more rest : List Char}

/-- An octal escape takes its digits, and in front of anything the same ones. -/
theorem octalEscape_takes (hsimple : simpleEscape? x = none) (hoctal : isOctal x = true)
    (h : escape? (x :: r) = some (c, more ++ rest)) (hmore : more ≠ []) :
    ∃ piece, x :: r = piece ++ (more ++ rest) ∧ ∀ t, escape? (piece ++ (more ++ t)) = some (c, more ++ t) := by
  simp only [escape?, hsimple, if_pos hoctal] at h
  obtain ⟨decoded, hcode, h⟩ := Option.map_eq_some_iff.mp h
  obtain ⟨rfl, hrest⟩ := Prod.mk.inj h
  have hs : octalDigits (x :: r) ++ (more ++ rest) = x :: r := by
    rw [← hrest]
    exact List.prefix_iff_eq_append.mp (octalDigits_isPrefix _)
  have hne : octalDigits (x :: r) ≠ [] := by
    intro he
    simp only [octalDigits, List.take_succ_cons, List.takeWhile_cons, hoctal, if_true] at he
    split at he <;> simp at he
  generalize hds : octalDigits (x :: r) = ds at *
  obtain ⟨y, ds, rfl⟩ := List.exists_cons_of_ne_nil hne
  obtain ⟨rfl, rfl⟩ := List.cons.inj hs
  refine ⟨y :: ds, rfl, fun t => ?_⟩
  have hsame : octalDigits (y :: (ds ++ (more ++ t))) = y :: ds := octalDigits_append hne hmore hds t
  simp only [List.cons_append, escape?, hsimple, hoctal, if_true, hsame, hcode, Option.map_some]
  simp

/-- A Unicode escape takes its marks and four digits, and in front of anything the same ones. -/
theorem unicodeEscape_takes (h : escape? ('u' :: r) = some (c, rest)) :
    ∃ piece, 'u' :: r = piece ++ rest ∧ ∀ t, escape? (piece ++ t) = some (c, t) := by
  have hsimple : simpleEscape? 'u' = none := by decide
  have hoctal : isOctal 'u' = false := by decide
  simp only [escape?, hsimple, hoctal, Bool.false_eq_true, if_false, beq_self_eq_true, if_true] at h
  obtain ⟨⟨code, r'⟩, hhex, h⟩ := Option.bind_eq_some_iff.mp h
  obtain ⟨decoded, hcode, h⟩ := Option.bind_eq_some_iff.mp h
  obtain ⟨rfl, rfl⟩ := Prod.mk.inj (Option.some.inj h)
  obtain ⟨a, b, c', d, hdrop, ha, hread⟩ := hexCode?_takes hhex
  have hrun : (∀ x ∈ ('u' :: r).takeWhile (· == 'u'), (x == 'u') = true) ∧ _ ∧ _ :=
    run_eq_iff.mp ⟨rfl, hdrop⟩
  have hus : ('u' :: r).takeWhile (· == 'u') = 'u' :: r.takeWhile (· == 'u') := rfl
  rw [hus] at hrun
  obtain ⟨hall, hs, hstop⟩ := hrun
  refine ⟨'u' :: r.takeWhile (· == 'u') ++ [a, b, c', d], by rw [hs]; simp, fun t => ?_⟩
  have hdrop' : ('u' :: r.takeWhile (· == 'u') ++ a :: b :: c' :: d :: t).dropWhile (· == 'u') =
      a :: b :: c' :: d :: t := dropWhile_run hall (Stops.cons (by simpa using ha))
  simp only [List.cons_append, List.append_assoc, List.nil_append] at hdrop' ⊢
  simp [escape?, hsimple, hoctal, hdrop', hread, hcode]

/-- An escape that something follows is the same escape, whatever stands behind that. -/
theorem escape?_takes {s : List Char} (h : escape? s = some (c, more ++ rest)) (hmore : more ≠ []) :
    ∃ piece, s = piece ++ (more ++ rest) ∧ ∀ t, escape? (piece ++ (more ++ t)) = some (c, more ++ t) := by
  cases s with
  | nil => cases h
  | cons x r =>
    cases hsimple : simpleEscape? x with
    | some decoded =>
      simp only [escape?, hsimple] at h
      obtain ⟨rfl, rfl⟩ := Prod.mk.inj (Option.some.inj h)
      exact ⟨[x], rfl, fun t => by simp only [List.singleton_append, escape?, hsimple]⟩
    | none =>
      by_cases hoctal : isOctal x = true
      · exact octalEscape_takes hsimple hoctal h hmore
      · have hu : x = 'u' := by
          by_contra hu
          simp [escape?, hsimple, hoctal, hu] at h
        subst hu
        obtain ⟨piece, hs, hread⟩ := unicodeEscape_takes h
        exact ⟨piece, hs, fun t => hread (more ++ t)⟩

end Escapes

theorem escape?_isSuffix {s rest : List Char} {c : Char} (h : escape? s = some (c, rest)) : rest <:+ s := by
  by_cases hrest : rest = []
  · rw [hrest]
    exact List.nil_suffix
  · rw [← List.append_nil rest] at h
    obtain ⟨piece, rfl, -⟩ := escape?_takes h hrest
    rw [List.append_nil]
    exact List.suffix_append piece rest

/-! ## What the scanner reads -/

/-- What stands between two quotes, and the text that it stands for. -/
inductive StandsFor (quote : Char) : List Char → List Char → Prop
  | nil : StandsFor quote [] []
  | plain {c : Char} {body text : List Char} : c ≠ quote → c ≠ '\\' → c ≠ '\r' → c ≠ '\n' →
      StandsFor quote body text → StandsFor quote (c :: body) (c :: text)
  /-- An escape is what is read of the rest up to and with the closing quote. -/
  | escape {c : Char} {mark body text : List Char} :
      escape? (mark ++ (body ++ [quote])) = some (c, body ++ [quote]) →
      StandsFor quote body text → StandsFor quote ('\\' :: (mark ++ body)) (c :: text)

variable {quote : Char}

theorem standsFor_of_stringBody {start : List Char} {n : Nat} {s text rest : List Char}
    (h : stringBody quote start n s = .ok (text, rest)) :
    ∃ body, s = body ++ quote :: rest ∧ StandsFor quote body text := by
  induction n generalizing s text with
  | zero => cases h
  | succ n ih =>
    unfold stringBody at h
    split at h
    · cases h
    rename_i c r
    split at h
    · rename_i hclose
      obtain ⟨rfl, rfl⟩ := Prod.mk.inj (Except.ok.inj h)
      exact ⟨[], by rw [hclose]; rfl, .nil⟩
    rename_i hquote
    split at h
    · rename_i hback
      split at h
      · rename_i decoded r' hescape
        obtain ⟨⟨text', rest'⟩, hmore, h⟩ := bind_eq_ok.mp h
        obtain ⟨rfl, rfl⟩ := Prod.mk.inj (Except.ok.inj h)
        obtain ⟨body, rfl, hbody⟩ := ih hmore
        rw [← List.singleton_append, ← List.append_assoc] at hescape
        obtain ⟨mark, rfl, hagain⟩ := escape?_takes hescape (by simp)
        refine ⟨'\\' :: (mark ++ body), by rw [hback]; simp, .escape ?_ hbody⟩
        simpa using hagain []
      · cases h
    rename_i hback
    split at h
    · cases h
    rename_i hline
    obtain ⟨⟨text', rest'⟩, hmore, h⟩ := bind_eq_ok.mp h
    obtain ⟨rfl, rfl⟩ := Prod.mk.inj (Except.ok.inj h)
    obtain ⟨body, rfl, hbody⟩ := ih hmore
    exact ⟨c :: body, rfl, .plain hquote hback (not_or.mp hline).1 (not_or.mp hline).2 hbody⟩

/-- An escape is the same escape with anything behind the closing quote. -/
theorem escape?_behind_quote {mark body : List Char} {c : Char}
    (h : escape? (mark ++ (body ++ [quote])) = some (c, body ++ [quote])) (rest : List Char) :
    escape? (mark ++ (body ++ quote :: rest)) = some (c, body ++ quote :: rest) := by
  rw [← List.append_nil (body ++ [quote])] at h
  obtain ⟨piece, hpiece, hagain⟩ := escape?_takes h (by simp)
  obtain rfl : mark = piece := List.append_cancel_right hpiece
  simpa using hagain rest

theorem stringBody_of_standsFor (hquote : quote = '"' ∨ quote = '\'') {body text : List Char}
    (h : StandsFor quote body text) (start rest : List Char) {n : Nat} (hn : body.length < n) :
    stringBody quote start n (body ++ quote :: rest) = .ok (text, rest) := by
  have hback : '\\' ≠ quote := by rcases hquote with rfl | rfl <;> decide
  induction h generalizing n with
  | nil =>
    obtain ⟨n, rfl⟩ := Nat.exists_eq_add_one_of_ne_zero (Nat.ne_of_gt hn)
    simp [stringBody]
  | plain hclose hescape hreturn hfeed _ ih =>
    obtain ⟨n, rfl⟩ := Nat.exists_eq_add_one_of_ne_zero (Nat.ne_of_gt (Nat.zero_lt_of_lt hn))
    rw [List.cons_append, stringBody, if_neg hclose, if_neg hescape, if_neg (not_or.mpr ⟨hreturn, hfeed⟩),
      ih (Nat.lt_of_succ_lt_succ hn)]
    rfl
  | escape hescape _ ih =>
    obtain ⟨n, rfl⟩ := Nat.exists_eq_add_one_of_ne_zero (Nat.ne_of_gt (Nat.zero_lt_of_lt hn))
    simp only [List.length_cons, List.length_append] at hn
    rw [List.cons_append, List.append_assoc, stringBody, if_neg hback, if_pos rfl,
      escape?_behind_quote hescape rest]
    simp only [ih (show _ < n by omega)]
    rfl

/-! ## Lines -/

theorem isOctal_of_mem_octalDigits {s : List Char} {x : Char} (h : x ∈ octalDigits s) : isOctal x = true := by
  have hrun {ds : List Char} (hds : ds <+: (s.take 3).takeWhile isOctal) (hx : x ∈ ds) : isOctal x = true :=
    List.all_eq_true.mp List.all_takeWhile x (hds.mem hx)
  simp only [octalDigits] at h
  split at h
  · exact hrun (List.prefix_refl _) h
  · exact hrun (List.take_prefix 2 _) h

theorem hexValue?_of_hexCode? {a b c d : Char} {rest : List Char} {found : Nat × List Char}
    (h : hexCode? (a :: b :: c :: d :: rest) = some found) : ∀ x ∈ [a, b, c, d], hexValue? x ≠ none := by
  simp only [hexCode?, Option.bind_eq_bind, Option.bind_eq_some_iff] at h
  obtain ⟨a', ha, b', hb, c', hc, d', hd, -⟩ := h
  simp [ha, hb, hc, hd]

/-- An escape does not go on in another line. -/
theorem escape?_oneLine {mark more : List Char} {c : Char} (h : escape? (mark ++ more) = some (c, more)) :
    ∀ x ∈ mark, x ≠ '\r' ∧ x ≠ '\n' := by
  -- what has been read is all that stands in front of the rest
  have hread (front : List Char) (hs : mark ++ more = front ++ more) : mark = front := List.append_cancel_right hs
  generalize hs : mark ++ more = s at h
  unfold escape? at h
  split at h
  · cases h
  rename_i x r
  split at h
  · rename_i decoded hsimple
    obtain ⟨rfl, rfl⟩ := Prod.mk.inj (Option.some.inj h)
    obtain rfl := hread [x] hs
    simp only [List.mem_singleton, forall_eq]
    constructor <;> rintro rfl <;> cases hsimple
  split at h
  · obtain ⟨decoded, -, h⟩ := Option.map_eq_some_iff.mp h
    obtain ⟨-, rfl⟩ := Prod.mk.inj h
    have hdigits := List.prefix_iff_eq_append.mp (octalDigits_isPrefix (x :: r))
    obtain rfl := hread _ (hs.trans hdigits.symm)
    intro y hy
    have hoctal := isOctal_of_mem_octalDigits hy
    constructor <;> rintro rfl <;> cases hoctal
  split at h
  · obtain ⟨⟨code, r'⟩, hhex, h⟩ := Option.bind_eq_some_iff.mp h
    obtain ⟨decoded, -, h⟩ := Option.bind_eq_some_iff.mp h
    obtain ⟨-, rfl⟩ := Prod.mk.inj (Option.some.inj h)
    obtain ⟨a, b, c', d, hdrop, -, -⟩ := hexCode?_takes hhex
    have hrun := List.takeWhile_append_dropWhile (p := (· == 'u')) (l := x :: r)
    rw [hdrop] at hrun
    obtain rfl := hread ((x :: r).takeWhile (· == 'u') ++ [a, b, c', d]) (by simp [hs, hrun])
    intro y hy
    rcases List.mem_append.mp hy with hy | hy
    · have hu := List.all_eq_true.mp List.all_takeWhile y hy
      constructor <;> rintro rfl <;> cases hu
    · rw [hdrop] at hhex
      have hdigit := hexValue?_of_hexCode? hhex y hy
      constructor <;> rintro rfl <;> exact hdigit rfl
  · cases h

theorem StandsFor.oneLine {body text : List Char} (h : StandsFor quote body text) :
    '\r' ∉ body ∧ '\n' ∉ body := by
  induction h with
  | nil => simp
  | plain _ _ hreturn hfeed _ ih =>
    exact ⟨List.not_mem_cons_of_ne_of_not_mem hreturn.symm ih.1, List.not_mem_cons_of_ne_of_not_mem hfeed.symm ih.2⟩
  | escape hescape _ ih =>
    have hmark := escape?_oneLine hescape
    simp only [List.mem_cons, List.mem_append, not_or]
    exact ⟨⟨by decide, fun hr => (hmark _ hr).1 rfl, ih.1⟩, ⟨by decide, fun hn => (hmark _ hn).2 rfl, ih.2⟩⟩

/-! ## Quoted strings -/

theorem string?_eq_some_iff (hquote : quote = '"' ∨ quote = '\'') {s rest : List Char} {text : String} :
    string? (quote :: s) = .ok (some text, rest) ↔
      ∃ body, s = body ++ quote :: rest ∧ StandsFor quote body text.toList := by
  rw [string?, if_pos hquote, bind_eq_ok]
  constructor
  · rintro ⟨⟨found, rest'⟩, hbody, h⟩
    obtain ⟨htext, rfl⟩ := Prod.mk.inj (Except.ok.inj h)
    rw [← Option.some.inj htext, String.toList_ofList]
    exact standsFor_of_stringBody hbody
  · rintro ⟨body, rfl, hbody⟩
    refine ⟨(text.toList, rest), stringBody_of_standsFor hquote hbody _ rest ?_, ?_⟩
    · rw [List.length_append]
      omega
    · show Except.ok (some (String.ofList text.toList), rest) = _
      rw [String.ofList_toList]

theorem string?_eq_none_iff {s : List Char} :
    string? s = .ok (none, s) ↔ Stops (fun c => c == '"' || c == '\'') s := by
  constructor
  · intro h c hc
    refine Bool.eq_false_iff.mpr fun hquote => ?_
    cases s with
    | nil => cases hc
    | cons d t =>
      obtain rfl := Option.some.inj hc
      rw [string?, if_pos (by simpa using hquote)] at h
      obtain ⟨found, -, h⟩ := bind_eq_ok.mp h
      cases h
  · exact fun h => string?_of_stops (h.char rfl) (h.char rfl)

theorem string?_head {s rest : List Char} {text : String} (h : string? s = .ok (some text, rest)) :
    ∃ c t, s = c :: t ∧ (c = '"' ∨ c = '\'') := by
  unfold string? at h
  split at h
  · cases h
  · rename_i c t
    split at h
    · rename_i hquote
      exact ⟨c, t, rfl, hquote⟩
    · cases h

/-- A quoted string is read in front of anything. -/
theorem string?_takes {s rest : List Char} {text : String} (h : string? s = .ok (some text, rest)) :
    ∃ piece, Firm piece ∧ 2 ≤ piece.length ∧ s = piece ++ rest ∧
      ∀ t, string? (piece ++ t) = .ok (some text, t) := by
  obtain ⟨c, s, rfl, hquote⟩ := string?_head h
  obtain ⟨body, rfl, hbody⟩ := (string?_eq_some_iff hquote).mp h
  have hfirm : Firm (c :: (body ++ [c])) := by
    rcases hquote with rfl | rfl <;> exact .cons rfl (by decide) _
  refine ⟨c :: (body ++ [c]), hfirm, by simp, by simp, fun t => ?_⟩
  exact (string?_eq_some_iff hquote).mpr ⟨body, by simp, hbody⟩

/-- The quoted form of a text is read back as the text, anywhere in a source and in front of
    anything, and the scanner goes on just behind it. Whatever else is read behind a quote is
    read up to its closing quote, as what stands between the two; no line ends there. -/
theorem quotation_round_trip (hquote : quote = '"' ∨ quote = '\'') :
    (∀ (s : String) (front rest : List Char),
      let source := front ++ (quoted quote s ++ rest)
      string? (quoted quote s ++ rest) = .ok (some s, rest) ∧
        (Position.before source rest).offset =
          (Position.before source (quoted quote s ++ rest)).offset + Text.utf8Size (quoted quote s)) ∧
    ∀ (s rest : List Char) (text : String),
      string? (quote :: s) = .ok (some text, rest) ↔
        ∃ body, s = body ++ quote :: rest ∧ StandsFor quote body text.toList ∧ '\r' ∉ body ∧ '\n' ∉ body := by
  refine ⟨fun s front rest => ⟨string?_quoted hquote s rest, ?_⟩, fun s rest text => ?_⟩
  · exact Position.offset_before_append front (quoted quote s) rest
  · rw [string?_eq_some_iff hquote]
    constructor
    · rintro ⟨body, hs, hbody⟩
      exact ⟨body, hs, hbody, hbody.oneLine⟩
    · rintro ⟨body, hs, hbody, -⟩
      exact ⟨body, hs, hbody⟩

/-- Three octal digits and a fourth one that is a character of its own, and two `u` for one
    escape. -/
theorem quotation_of_escapes :
    let quote := '\''
    (quote = '"' ∨ quote = '\'') ∧ StandsFor quote "\\1012\\uu0041".toList "A2A".toList ∧
      string? "'\\1012\\uu0041'8".toList = .ok (some "A2A", ['8']) ∧
      string? (quoted quote "it's\n" ++ ['8']) = .ok (some "it's\n", ['8']) := by
  intro quote
  have hquote : quote = '"' ∨ quote = '\'' := .inr rfl
  have hbody : StandsFor quote "\\1012\\uu0041".toList "A2A".toList :=
    @StandsFor.escape quote 'A' ['1', '0', '1'] _ _ rfl
      (.plain (by decide) (by decide) (by decide) (by decide)
        (@StandsFor.escape quote 'A' ['u', 'u', '0', '0', '4', '1'] [] [] rfl .nil))
  obtain ⟨hwritten, hread⟩ := quotation_round_trip hquote
  exact ⟨hquote, hbody, (hread _ _ _).mpr ⟨_, rfl, hbody, by decide, by decide⟩, (hwritten _ [] _).1⟩

end TemplateEngine.Scan
