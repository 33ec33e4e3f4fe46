/-
  TemplateEngine.Proofs.Json.Library — the writer and the reader at hand are lawful.

  The writer escapes what has to be escaped, by a letter or by its code. The reader reads a
  text back as a document, whatever follows it, and the document stands for the data that
  the text is one of; for containers this goes by the depth, which is also how the reader
  recurs.

  Proved:
  - `encode_lawful`: the laws of the writer.
  - `readsData_of_document`: a text of data is read as a document of them.
  - `decode_lawful`: the law of the reader.
-/

import TemplateEngine.Json.Printer
import TemplateEngine.Json.ToData
import TemplateEngine.Proofs.Json.Tokens

namespace TemplateEngine.Json

/-! ## Writing -/

theorem hexValue?_hexDigit {n : Nat} (h : n < 16) : Scan.hexValue? (hexDigit n) = some n := by
  have hall : ∀ n, n < 16 → Scan.hexValue? (hexDigit n) = some n := by decide
  exact hall n h

theorem hexCode?_control {n : Nat} (h : n < 0x20) :
    Scan.hexCode? ['0', '0', hexDigit (n / 16), hexDigit (n % 16)] = some (n, []) := by
  have hzero : Scan.hexValue? '0' = some 0 := rfl
  have hcode : ((0 * 16 + 0) * 16 + n / 16) * 16 + n % 16 = n := by omega
  simp only [Scan.hexCode?, hzero, hexValue?_hexDigit (show n / 16 < 16 by omega),
    hexValue?_hexDigit (Nat.mod_lt n (by decide : 0 < 16)), Option.bind_eq_bind, Option.bind_some,
    Option.pure_def, hcode]

theorem charText_escaped (c : Char) : CharText c (escaped c) := by
  unfold escaped
  split
  case h_8 hquote hback _ _ _ _ _ =>
    by_cases hcontrol : c.toNat < 0x20
    · rw [if_pos hcontrol]
      exact .code (hexCode?_control hcontrol)
    · rw [if_neg hcontrol]
      exact .plain hquote hback (Nat.le_of_not_lt hcontrol)
  all_goals exact .escape rfl

theorem stringText_quoted (s : String) : StringText s (quoted s).toList := by
  refine ⟨s.toList.map escaped, ?_, ?_⟩
  · exact List.forall₂_map_right_iff.mpr (List.forall₂_same.mpr fun c _ => charText_escaped c)
  · simp only [quoted, String.toList_append, String.toList_ofList, List.flatMap_def]
    rfl

theorem jsonItems_eq {items : List Value} {texts : List String}
    (h : List.Forall₂ (fun v text => encode v = .ok text) items texts) : Value.jsonItems items = texts := by
  induction h with
  | nil => rw [Value.jsonItems]
  | cons hfirst _ ih => rw [Value.jsonItems, ih, Except.ok.inj hfirst]

theorem jsonEntries_eq {entries : List (String × Value)} {texts : List String}
    (h : List.Forall₂ (fun e text => ∃ key value, encode (.string e.1) = .ok key ∧ encode e.2 = .ok value ∧
      text = key ++ ":" ++ value) entries texts) : Value.jsonEntries entries = texts := by
  induction h with
  | nil => rw [Value.jsonEntries]
  | @cons e text entries texts hfirst _ ih =>
    obtain ⟨name, v⟩ := e
    obtain ⟨key, value, hkey, hvalue, rfl⟩ := hfirst
    have hquoted : quoted name = key := by
      rw [← Except.ok.inj hkey, Value.json]
    rw [Value.jsonEntries, ih, hquoted, Except.ok.inj hvalue]

theorem encode_lawful : Encoder.Lawful encode where
  null := by rw [encode, Value.json]
  bool b := by rw [encode, Value.json]
  whole n := by rw [encode, Value.json]
  string s := ⟨_, by rw [encode, Value.json], stringText_quoted s⟩
  char c := by rw [encode, encode, Value.json, Value.json]
  list h := by rw [encode, Value.json, jsonItems_eq h]
  map h := by rw [encode, Value.json, jsonEntries_eq h]

/-! ## Reading scalars -/

theorem value?_of_scalar {c : Char} (hblank : isBlank c = false) (hlist : c ≠ '[') (hmap : c ≠ '\x7b')
    (strict : Bool) (depth : Nat) (s : List Char) :
    value? strict depth (c :: s) = scalar? strict (c :: s) := by
  cases depth with
  | zero => rw [value?]
  | succ depth =>
    rw [value?, skipBlanks_cons hblank]
    split
    · rename_i heq
      exact absurd (List.cons.inj heq).1 hlist
    · rename_i heq
      exact absurd (List.cons.inj heq).1 hmap
    · rfl

theorem readsBack_null (depth : Nat) : ReadsBack (value? true depth) "null".toList .null := by
  intro rest _
  show value? true depth ('n' :: 'u' :: 'l' :: 'l' :: rest) = _
  rw [value?_of_scalar rfl (by decide) (by decide)]
  rfl

theorem readsBack_true (depth : Nat) : ReadsBack (value? true depth) "true".toList (.bool true) := by
  intro rest _
  show value? true depth ('t' :: 'r' :: 'u' :: 'e' :: rest) = _
  rw [value?_of_scalar rfl (by decide) (by decide)]
  rfl

theorem readsBack_false (depth : Nat) : ReadsBack (value? true depth) "false".toList (.bool false) := by
  intro rest _
  show value? true depth ('f' :: 'a' :: 'l' :: 's' :: 'e' :: rest) = _
  rw [value?_of_scalar rfl (by decide) (by decide)]
  rfl

/-- Numbers are what starts with a sign or a digit. -/
theorem readsBack_whole (n : Int) (depth : Nat) :
    ReadsBack (value? true depth) (toString n).toList (.number (wholeNumeral n)) := by
  intro rest hrest
  have hread := readsBack_numeral n rest hrest
  obtain ⟨c, tail, htext, hc⟩ := head_toString n
  rw [htext, List.cons_append] at hread ⊢
  rw [value?_of_scalar hc.not_blank (hc.ne (by decide) (by decide)) (hc.ne (by decide) (by decide))]
  unfold scalar?
  rw [skipBlanks_cons hc.not_blank]
  dsimp only
  split
  -- the other readers start with a letter or a quote
  case h_5 =>
    rw [hread]
    rfl
  all_goals
    rename_i heq
    exact absurd (List.cons.inj heq).1 (hc.ne (by decide) (by decide))

theorem readsBack_string {s : String} {text : List Char} (h : StringText s text) (depth : Nat) :
    ReadsBack (value? true depth) text (.string s) := by
  intro rest _
  have hread := string?_text h rest
  obtain ⟨pieces, -, rfl⟩ := h
  rw [List.cons_append] at hread ⊢
  rw [value?_of_scalar rfl (by decide) (by decide), scalar?, skipBlanks_cons rfl]
  simp only [hread]
  rfl

theorem number?_wholeNumeral (n : Int64) : (wholeNumeral n.toInt).number? = some (.ofWord n) := by
  have hsign : (if n.toInt < 0 then -(n.toInt.natAbs : Int) else n.toInt.natAbs) = n.toInt := by
    split <;> omega
  have hzero : ¬ (n.toInt < 0 ∧ (n.toInt.natAbs : Int) = 0) := by omega
  simp only [Numeral.number?, wholeNumeral, Scan.digitsValue_toDigits, Option.isSome_none, Bool.or_false,
    Bool.false_or, Bool.and_eq_true, decide_eq_true_eq, beq_iff_eq, if_neg hzero, hsign, Scan.word?_toInt]

/-! ## Reading data -/

/-- The text is read as a document of the data, and not as the end of a container. -/
def ReadsData (reader : Reader Json) (closing : Char) (text : List Char) (d : Data) : Prop :=
  ∃ j, ReadsBack reader text j ∧ Opens closing text ∧ toData? j = some d

theorem readsData_of_scalar {text : List Char} {d : Data} (h : ScalarText text d) (depth : Nat) :
    ReadsData (value? true depth) ']' text d := by
  cases h with
  | null => exact ⟨.null, readsBack_null depth, ⟨'n', _, rfl, rfl, by decide⟩, by rw [toData?]⟩
  | bool b =>
    cases b with
    | false => exact ⟨.bool false, readsBack_false depth, ⟨'f', _, rfl, rfl, by decide⟩, by rw [toData?]⟩
    | true => exact ⟨.bool true, readsBack_true depth, ⟨'t', _, rfl, rfl, by decide⟩, by rw [toData?]⟩
  | whole n =>
    obtain ⟨c, rest, htext, hc⟩ := head_toString n.toInt
    refine ⟨_, readsBack_whole n.toInt depth, ⟨c, rest, htext, hc.not_blank, hc.ne (by decide) (by decide)⟩, ?_⟩
    rw [toData?, number?_wholeNumeral]
    rfl
  | string hs => exact ⟨_, readsBack_string hs depth, opens_string (by decide) hs, by rw [toData?]⟩

section

variable {reader : Reader Json} {texts : List (List Char)}

theorem allReadBack_items {items : List Data} (h : List.Forall₂ (ReadsData reader ']') texts items) :
    ∃ docs, AllReadBack reader ']' texts docs ∧ itemData? docs = some items := by
  induction h with
  | nil => exact ⟨[], .nil, by rw [itemData?]⟩
  | cons hfirst _ ih =>
    obtain ⟨j, hread, hopens, hdata⟩ := hfirst
    obtain ⟨docs, hreads, hall⟩ := ih
    refine ⟨j :: docs, .cons ⟨hopens, hread⟩ hreads, ?_⟩
    rw [itemData?, hdata, hall]
    rfl

/-- A member starts with its name. -/
theorem allReadBack_members {members : List (String × Data)}
    (h : List.Forall₂ (MemberText (ReadsData reader ']')) texts members) :
    ∃ docs, AllReadBack (member? true reader) '\x7d' texts docs ∧ memberData? docs = some members := by
  induction h with
  | nil => exact ⟨[], .nil, by rw [memberData?]⟩
  | @cons text m texts members hfirst _ ih =>
    obtain ⟨name, value, hname, ⟨j, hread, -, hdata⟩, rfl⟩ := hfirst
    obtain ⟨docs, hreads, hall⟩ := ih
    refine ⟨(m.1, j) :: docs, .cons ⟨(opens_string (by decide) hname).append _, ?_⟩ hreads, ?_⟩
    · exact readsBack_member hname hread
    · rw [memberData?, hdata, hall]
      rfl

theorem readsBack_array {items : List Json} {strict : Bool} {depth : Nat}
    (h : AllReadBack (value? strict depth) ']' texts items) :
    ReadsBack (value? strict (depth + 1)) ('[' :: ([','].intercalate texts ++ [']'])) (.array items) := by
  intro rest _
  have hread : enclosed? '[' ']' (value? strict depth) ('[' :: ([','].intercalate texts ++ ']' :: rest)) =
      some (items, rest) := enclosed?_of_texts rfl rfl (by decide) rfl h rest
  rw [List.cons_append, List.append_assoc, List.singleton_append, value?, skipBlanks_cons rfl]
  simp only [hread]
  rfl

theorem readsBack_object {members : List (String × Json)} {strict : Bool} {depth : Nat}
    (h : AllReadBack (member? strict (value? strict depth)) '\x7d' texts members) :
    ReadsBack (value? strict (depth + 1)) ('\x7b' :: ([','].intercalate texts ++ ['\x7d'])) (.object members) := by
  intro rest _
  have hread : members? strict (value? strict depth) ('\x7b' :: ([','].intercalate texts ++ '\x7d' :: rest)) =
      some (members, rest) := enclosed?_of_texts rfl rfl (by decide) rfl h rest
  rw [List.cons_append, List.append_assoc, List.singleton_append, value?, skipBlanks_cons rfl]
  simp only [hread]
  rfl

end

theorem MemberText.imp {inside inside' : List Char → Data → Prop} {text : List Char} {m : String × Data}
    (himp : ∀ text d, inside text d → inside' text d) (h : MemberText inside text m) :
    MemberText inside' text m := by
  obtain ⟨name, value, hname, hvalue, htext⟩ := h
  exact ⟨name, value, hname, himp value m.2 hvalue, htext⟩

theorem readsData_of_document {depth : Nat} (text : List Char) (d : Data) (h : DocumentText depth text d) :
    ReadsData (value? true depth) ']' text d := by
  induction depth generalizing text d with
  | zero => exact readsData_of_scalar h 0
  | succ depth ih =>
    rcases h with h | h
    · exact readsData_of_scalar h _
    cases h with
    | array h =>
      obtain ⟨docs, hread, hdata⟩ := allReadBack_items (h.imp ih)
      refine ⟨_, readsBack_array hread, ⟨'[', _, rfl, rfl, by decide⟩, ?_⟩
      rw [toData?, hdata]
      rfl
    | object h =>
      obtain ⟨docs, hread, hdata⟩ := allReadBack_members (h.imp fun _ _ => MemberText.imp ih)
      refine ⟨_, readsBack_object hread, ⟨'\x7b', _, rfl, rfl, by decide⟩, ?_⟩
      rw [toData?, hdata, Option.map_some, sortByKey_eq]

theorem decode_lawful : Decoder.Lawful decode where
  reads := by
    intro text d h
    obtain ⟨j, hread, -, hdata⟩ := readsData_of_document text.toList d h
    have hwhole := hread [] .nil
    rw [List.append_nil] at hwhole
    show (whole? (value? true 127) text).bind toData? = _
    rw [whole?, hwhole]
    exact hdata

end TemplateEngine.Json
