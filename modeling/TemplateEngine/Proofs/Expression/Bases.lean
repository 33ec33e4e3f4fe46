/-
  TemplateEngine.Proofs.Expression.Bases — the bases of expressions read back.

  A base is tried as a list or range, as a map, as a literal and as a name, in this order.
  Each of their texts starts with a character that rules the forms before it out. One
  lemma for each form: it is readable, if its members are.
-/

import TemplateEngine.Proofs.Expression.Readable

namespace TemplateEngine.Expr

open Grammar Scan
open Operator (Level)

variable (extra : Place → Expr → Bool)

/-! ## Bases -/

theorem Readable.of_base {e : Expr} (hloose : e.looseness = 0) (hstep : e.isStep = false)
    (hstage : e.isStage = false) (begins : ∀ extra last rest, Begins (bare extra last e ++ rest))
    (base : ∀ extra last n rest, (bare extra last e).length ≤ n + 1 → Follows 0 rest →
      ruleUpTo n 0 (bare extra last e ++ rest) = .ok (some e, skipSpacing rest)) : Readable e where
  begins := begins
  alone := by
    intro extra last n rest hn hrest _ _
    rw [hloose] at hrest ⊢
    exact base extra last n rest hn hrest
  step := fun h => absurd h (by simp [hstep])
  stage := fun h => absurd h (by simp [hstage])

/-- The characters, other than those of numbers, that start a form tried before literals. -/
def opensEarlier (c : Char) : Bool := c == '(' || c == '\'' || c == '[' || c == '\x7b'

theorem base_of_literal {primary expr : Rule Expr} {s rest : List Char} {l : Literal}
    (hhead : Stops opensEarlier s)
    (hrange : range? integer? s = none) (h : scalar s = .ok (some l, rest)) :
    ruleOf primary expr 0 s = .ok (some (.literal l), rest) := by
  have hliteral : Grammar.literal s = .ok (some (.literal l), rest) := by rw [Grammar.literal, h]; rfl
  have hlist : listLiteral expr s = .ok (none, s) :=
    listLiteral_absent hrange (hhead.char rfl) (hhead.char rfl)
  have hmap : mapLiteral expr s = .ok (none, s) := mapLiteral_absent (hhead.char (c := '\x7b') rfl)
  rw [ruleOf, orElse_of_absent (parenthesized_absent (hhead.char rfl)), basic, orElse_of_absent hlist,
    orElse_of_absent hmap, orElse_of_reads hliteral]

theorem intRange_absent {c : Char} (hminus : (c == '-') = false) (hdigit : isDigit c = false)
    (s : List Char) : range? integer? (c :: s) = none :=
  range?_absent (integer?_of_stops (Stops.cons hminus) (Stops.cons hdigit))

theorem word_of_joins {rest : List Char} (h : Stops joins rest) : Stops isLetterOrDigit rest :=
  h.mono fun c hc => by simp [joins, hc]

theorem digit_of_joins {rest : List Char} (h : Stops joins rest) : Stops isDigit rest :=
  h.mono fun c hc => by simp [joins, isLetterOrDigit, hc]

theorem readable_null : Readable (.literal .null) := by
  refine .of_base rfl rfl rfl (fun _ _ rest => .cons rfl (by decide) _) fun _ _ n rest _ hrest => ?_
  refine base_of_literal (Stops.cons rfl) (intRange_absent rfl rfl _) ?_
  have hnull := keyword?_append (by decide : isKeyword "null" = true) (word_of_joins hrest.word)
  have htrue : keyword? "true" ("null".toList ++ rest) = none := rfl
  have hfalse : keyword? "false" ("null".toList ++ rest) = none := rfl
  have hfraction : double? ("null".toList ++ rest) = none := rfl
  have hnumber : integer? ("null".toList ++ rest) = none := rfl
  have hstring : string? ("null".toList ++ rest) = .ok (none, "null".toList ++ rest) := rfl
  show scalar ("null".toList ++ rest) = _
  rw [scalar_eq_some_iff]
  exact .inl ⟨hstring, .inr ⟨htrue, .inr ⟨hfalse, .inr ⟨hfraction, .inr ⟨hnumber, hnull, rfl⟩⟩⟩⟩⟩

theorem readable_bool (b : Bool) : Readable (.literal (.bool b)) := by
  refine .of_base rfl rfl rfl (fun _ _ rest => ?_) fun _ _ n rest _ hrest => ?_
  · cases b <;> exact .cons rfl (by decide) _
  refine base_of_literal ?_ ?_ ?_
  · cases b <;> exact Stops.cons rfl
  · cases b <;> exact intRange_absent rfl rfl _
  have hstop := word_of_joins hrest.word
  cases b with
  | true =>
    have htrue := keyword?_append (by decide : isKeyword "true" = true) hstop
    have hstring : string? ("true".toList ++ rest) = .ok (none, "true".toList ++ rest) := rfl
    show scalar ("true".toList ++ rest) = _
    rw [scalar_eq_some_iff]
    exact .inl ⟨hstring, .inl ⟨htrue, rfl⟩⟩
  | false =>
    have hfalse := keyword?_append (by decide : isKeyword "false" = true) hstop
    have htrue : keyword? "true" ("false".toList ++ rest) = none := rfl
    have hstring : string? ("false".toList ++ rest) = .ok (none, "false".toList ++ rest) := rfl
    show scalar ("false".toList ++ rest) = _
    rw [scalar_eq_some_iff]
    exact .inl ⟨hstring, .inr ⟨htrue, .inl ⟨hfalse, rfl⟩⟩⟩

/-! ### Numbers -/

theorem stops_integerText {p : Char → Bool} (hminus : p '-' = false)
    (hdigit : ∀ c, isDigit c = true → p c = false) (n : Int64) (rest : List Char) :
    Stops p (integerText n ++ rest) := by
  rw [integerText, toList_toString]
  split
  · exact Stops.cons hminus
  · cases h : Nat.toDigits 10 n.toInt.natAbs with
    | nil => exact absurd h Nat.toDigits_ne_nil
    | cons c cs => exact Stops.cons (hdigit c (isDigit_of_mem_toDigits (h ▸ List.mem_cons_self ..)))

theorem begins_integerText (n : Int64) (rest : List Char) : Begins (integerText n ++ rest) := by
  rw [integerText, toList_toString]
  split
  · exact .cons rfl (by decide) _
  · cases h : Nat.toDigits 10 n.toInt.natAbs with
    | nil => exact absurd h Nat.toDigits_ne_nil
    | cons c cs =>
      have hc := isDigit_of_mem_toDigits (h ▸ List.mem_cons_self ..)
      exact .cons (by simp [startsBase, opensBase, hc]) (by rintro rfl; exact absurd hc (by decide)) _

theorem digit_apart {c : Char} (h : isDigit c = true) :
    isLetter c = false ∧ opensEarlier c = false ∧ (c == '"') = false := by
  refine ⟨Bool.eq_false_iff.mpr fun hl => ?_, Bool.eq_false_iff.mpr fun hb => ?_,
    beq_eq_false_iff_ne.mpr ?_⟩
  · exact Bool.noConfusion (h.symm.trans (letter_not_digit hl))
  · simp only [opensEarlier, Bool.or_eq_true, beq_iff_eq] at hb
    rcases hb with ((rfl | rfl) | rfl) | rfl <;> exact absurd h (by decide)
  · rintro rfl
    exact absurd h (by decide)

theorem readable_int (n : Int64) : Readable (.literal (.int n)) := by
  refine .of_base rfl rfl rfl (fun _ _ rest => begins_integerText n rest) fun _ _ m rest _ hrest => ?_
  have hstop := digit_of_joins hrest.word
  have hnumber : integer? (integerText n ++ rest) = some (n, rest) := integer?_toString n hstop
  have hfraction : double? (integerText n ++ rest) = none := double?_toString n.toInt hstop hrest.fraction
  have hletter : Stops isLetter (integerText n ++ rest) :=
    stops_integerText rfl (fun c hc => (digit_apart hc).1) n rest
  have hearlier : Stops opensEarlier (integerText n ++ rest) :=
    stops_integerText rfl (fun c hc => (digit_apart hc).2.1) n rest
  have hdouble : Stops (· == '"') (integerText n ++ rest) :=
    stops_integerText rfl (fun c hc => (digit_apart hc).2.2) n rest
  have hrange : range? integer? (integerText n ++ rest) = none := by
    simp only [range?, hnumber, symbol?, hrest.range, Option.bind_eq_bind, Option.bind_some]
    rfl
  refine base_of_literal hearlier hrange ?_
  show scalar (integerText n ++ rest) = _
  rw [scalar_eq_some_iff]
  simp [string?_of_stops hdouble (hearlier.char rfl), keyword?_of_stops "true" hletter rfl,
    keyword?_of_stops "false" hletter rfl, hfraction, hnumber]

theorem readable_string (s : String) : Readable (.literal (.string s)) := by
  refine .of_base rfl rfl rfl (fun _ _ rest => .cons rfl (by decide) _) fun _ _ n rest _ hrest => ?_
  refine base_of_literal (Stops.cons rfl) (intRange_absent rfl rfl _) ?_
  have hstring := string?_quoted (.inl rfl) s rest
  exact scalar_eq_some_iff.mpr (.inr ⟨s, rest, hstring, rfl, rfl⟩)

/-! ## Lists and maps -/

theorem base_of_listLiteral {primary expr : Rule Expr} {s rest : List Char} {e : Expr}
    (hparen : Stops (· == '(') s) (h : listLiteral expr s = .ok (some e, rest)) :
    ruleOf primary expr 0 s = .ok (some e, rest) := by
  rw [ruleOf, orElse_of_absent (parenthesized_absent hparen), basic, orElse_of_reads h]

theorem readable_list {items : List Expr} (h : ∀ e ∈ items, Readable e) : Readable (.list items) := by
  refine .of_base rfl rfl rfl (fun _ _ rest => .cons rfl (by decide) _) fun extra _ n rest hn hrest => ?_
  simp only [bare_list, List.length_cons, List.length_append] at hn
  have hread := enclosed_members extra "[" "]" (o := '[') (c := ']') rfl rfl rfl (by decide) h
    (readFree_members extra h (n := n) (by omega)) rest
  have hrange : ∀ s, range? integer? ('[' :: s) = none := intRange_absent rfl rfl
  have hletters : ∀ s, range? letter? ('[' :: s) = none := fun s =>
    range?_absent (letter?_of_stops (Stops.cons rfl))
  simp only [bare_list, List.cons_append, List.append_assoc, List.nil_append]
  refine base_of_listLiteral (Stops.cons rfl) ?_
  simp only [listLiteral_eq, hrange, hletters, hread, Except.ok_bind]
  rfl

theorem readable_intRange (first final : Int64) : Readable (.intRange first final) := by
  refine .of_base rfl rfl rfl (fun _ _ rest => ?_) fun _ _ n rest _ hrest => ?_
  · rw [bare_intRange, List.append_assoc]
    exact begins_integerText first _
  have hlast := integer?_toString final (digit_of_joins hrest.word)
  have hdot : Stops isDigit ('.' :: '.' :: (integerText final ++ rest)) := Stops.cons rfl
  have hfirst := integer?_toString first hdot
  have hdots : symbol? ".." (skipSpacing ('.' :: '.' :: (integerText final ++ rest))) =
      some (integerText final ++ rest) := by
    rw [skipSpacing_of_unspaced (.cons _ rfl (by decide))]
    exact (begins_integerText final rest).symbol?_append ".."
  have hrange : range? integer? (integerText first ++ '.' :: '.' :: (integerText final ++ rest)) =
      some ((first, final), skipSpacing rest) := by
    rw [← integerText] at hlast hfirst
    simp only [range?, hfirst, hdots, hlast, Option.bind_eq_bind, Option.bind_some]
    rfl
  simp only [bare_intRange, List.append_assoc, List.cons_append]
  have hearlier : Stops opensEarlier (integerText first ++ '.' :: '.' :: (integerText final ++ rest)) :=
    stops_integerText rfl (fun c hc => (digit_apart hc).2.1) first _
  refine base_of_listLiteral (hearlier.char rfl) ?_
  simp only [listLiteral_eq, hrange]

theorem readable_charRange {first final : Char} (hfirst : isAsciiLetter first = true)
    (hfinal : isAsciiLetter final = true) : Readable (.charRange first final) := by
  refine .of_base rfl rfl rfl (fun _ _ rest => .cons rfl (by decide) _) fun _ _ n rest _ hrest => ?_
  have hnumber : ∀ s, range? integer? ('\'' :: s) = none := intRange_absent rfl rfl
  have hletter : ∀ c more, isAsciiLetter c = true →
      letter? ('\'' :: c :: '\'' :: more) = some (c, more) := fun c more hc => if_pos hc
  have hdots : symbol? ".." (skipSpacing ('.' :: '.' :: '\'' :: final :: '\'' :: rest)) =
      some ('\'' :: final :: '\'' :: rest) := by
    rw [skipSpacing_of_unspaced (.cons _ rfl (by decide))]
    exact (Begins.cons (c := '\'') rfl (by decide) (final :: '\'' :: rest)).symbol?_append ".."
  have hrange : range? letter? ('\'' :: first :: '\'' :: '.' :: '.' :: '\'' :: final :: '\'' :: rest) =
      some ((first, final), skipSpacing rest) := by
    simp only [range?, hletter first _ hfirst, hdots, hletter final _ hfinal, Option.bind_eq_bind,
      Option.bind_some]
    rfl
  refine base_of_listLiteral (Stops.cons rfl) ?_
  show listLiteral _ ('\'' :: first :: '\'' :: '.' :: '.' :: '\'' :: final :: '\'' :: rest) = _
  simp only [listLiteral_eq, hnumber, hrange]

theorem readable_map {entries : List (String × Expr)} (h : ∀ m ∈ entries, Readable m.2) :
    Readable (.map entries) := by
  refine .of_base rfl rfl rfl (fun extra _ rest => ?_) fun extra _ n rest hn hrest => ?_
  · refine ⟨'\x7b', _, rfl, rfl, fun _ => ?_⟩
    rw [entryTexts_eq_map]
    cases entries <;> exact fun h => absurd (Option.some.inj h) (by decide)
  simp only [bare_map, List.length_cons, List.length_append] at hn
  simp only [bare_map, List.cons_append, List.append_assoc, List.nil_append]
  have hlist : ∀ s, listLiteral (expressionUpTo n) ('\x7b' :: s) = .ok (none, '\x7b' :: s) := fun s =>
    listLiteral_absent (intRange_absent rfl rfl s) (Stops.cons rfl) (Stops.cons rfl)
  rw [ruleUpTo, ruleOf, orElse_of_absent (parenthesized_absent (Stops.cons rfl)), basic,
    orElse_of_absent (hlist _), orElse_of_reads (mapLiteral_members extra h (n := n) (by omega) rest)]

/-! ## Names -/

theorem functionReference_var {expr : Rule Expr} {name : String} (h : isName name = true) {rest : List Char}
    (hrest : Stops joins rest) :
    functionReference expr (name.toList ++ rest) = .ok (some (.var name), skipSpacing rest) := by
  simp only [functionReference, identifier?_append h (word_of_joins hrest), called, arguments,
    enclosed_absent "(" ")" expr hrest rfl]
  rfl

theorem functionReference_call {name : String} (h : isName name = true) {args : List Expr}
    (hargs : ∀ e ∈ args, Readable e) {expr : Rule Expr} (hexpr : ∀ e ∈ args, ReadFree extra expr e)
    (rest : List Char) :
    functionReference expr (name.toList ++ '(' :: (separated (texts extra args) ++ ')' :: rest)) =
      .ok (some (.call name args), skipSpacing rest) := by
  have hread := enclosed_members extra "(" ")" (o := '(') (c := ')') rfl rfl rfl (by decide) hargs hexpr rest
  simp only [functionReference, identifier?_cons h (c := '(') rfl, called, arguments, hread]
  rfl

theorem fixedKey_quoted (key : String) (rest : List Char) :
    fixedKey ('[' :: (quoted '"' key ++ ']' :: rest)) = .ok (some key, skipSpacing rest) := by
  have hbegins : Begins (quoted '"' key ++ ']' :: rest) := .cons rfl (by decide) _
  have hopen : symbol? "[" ('[' :: (quoted '"' key ++ ']' :: rest)) = some _ :=
    hbegins.symbol?_append "["
  have hclose : symbol? "]" (']' :: rest) = some (skipSpacing rest) := rfl
  simp only [fixedKey, hopen, string?_quoted (.inl rfl), skipSpacing_closer (c := ']') rfl, hclose,
    Except.ok_bind]
  rfl

theorem begins_name {name : String} (h : isName name = true) (rest : List Char) :
    Begins (name.toList ++ rest) := by
  obtain ⟨⟨c, t, hname, hc⟩, -⟩ := isName_iff.mp h
  rw [hname]
  refine .cons (by simp [startsBase, hc]) ?_ _
  rintro rfl
  exact absurd hc (by decide)

/-- A name is tried as nothing else. -/
theorem base_of_named {primary expr : Rule Expr} {name : String} (h : isName name = true) {rest : List Char}
    (hrest : Stops isLetterOrDigit rest) {e : Expr} {more : List Char}
    (hread : named primary expr (name.toList ++ rest) = .ok (some e, more)) :
    ruleOf primary expr 0 (name.toList ++ rest) = .ok (some e, more) := by
  have hhead := stops_name h rest
  have hnumber := integer?_of_stops (hhead.char rfl) (hhead.mono fun c hc => by simp [opensBase, hc])
  have hlist : listLiteral expr (name.toList ++ rest) = .ok (none, name.toList ++ rest) :=
    listLiteral_absent (range?_absent hnumber) (hhead.char rfl) (hhead.char rfl)
  have hmap : mapLiteral expr (name.toList ++ rest) = .ok (none, name.toList ++ rest) :=
    mapLiteral_absent (hhead.char (c := '\x7b') rfl)
  rw [ruleOf, orElse_of_absent (parenthesized_absent (hhead.char rfl)), basic, orElse_of_absent hlist,
    orElse_of_absent hmap, orElse_of_absent (literal_absent_of_name h hrest), hread]

theorem readable_var {name : String} (h : isName name = true) : Readable (.var name) where
  begins := fun _ _ rest => begins_name h rest
  alone := by
    intro _ _ n rest _ hrest _ _
    have hkey : fixedKey rest = .ok (none, rest) := fixedKey_absent hrest.word rfl
    have hargs : arguments (expressionUpTo n) rest = .ok (none, rest) :=
      enclosed_absent "(" ")" _ hrest.word rfl
    refine base_of_named h (word_of_joins hrest.word) ?_
    simp only [named, identifier?_append h (word_of_joins hrest.word), hkey, hargs, Except.ok_bind]
    rcases hrest.argument with hminus | hnone
    · rw [if_pos hminus]; rfl
    · rw [hnone n]
      split <;> rfl
  step := by
    intro _ _ n rest _ hrest
    have hkey : fixedKey rest = .ok (none, rest) := fixedKey_absent hrest rfl
    have hname := identifier?_append h (word_of_joins hrest)
    have hvar : functionReference (expressionUpTo n) (name.toList ++ rest) =
        .ok (some (.var name), skipSpacing rest) :=
      functionReference_var h hrest
    simp only [functionReference, hname] at hvar
    simp only [bare_var, selectionStep, hname, hkey, Except.ok_bind, hvar]
  stage := fun _ _ n rest _ hrest => functionReference_var h hrest

theorem readable_call {name : String} (h : isName name = true) {args : List Expr}
    (hargs : ∀ e ∈ args, Readable e) : Readable (.call name args) where
  begins := by
    intro _ _ rest
    rw [bare_call, List.append_assoc]
    exact begins_name h _
  alone := by
    intro extra _ n rest hn hrest _ _
    simp only [bare_call, List.length_cons, List.length_append] at hn
    have hread := enclosed_members extra "(" ")" (o := '(') (c := ')') rfl rfl rfl (by decide) hargs
      (readFree_members extra hargs (n := n) (by omega)) rest
    have hkey (more : List Char) : fixedKey ('(' :: more) = .ok (none, '(' :: more) := rfl
    simp only [bare_call, List.append_assoc, List.cons_append, List.nil_append]
    refine base_of_named h (Stops.cons rfl) ?_
    simp only [named, identifier?_cons h (c := '(') rfl, hkey, arguments, hread, Except.ok_bind]
    rfl
  step := by
    intro _ extra n rest hn hrest
    simp only [bare_call, List.length_cons, List.length_append] at hn
    have hkey (more : List Char) : fixedKey ('(' :: more) = .ok (none, '(' :: more) := rfl
    have hcall := functionReference_call extra h hargs (readFree_members extra hargs (n := n) (by omega)) rest
    simp only [functionReference, identifier?_cons h (c := '(') rfl] at hcall
    simp only [bare_call, List.append_assoc, List.cons_append, List.nil_append, selectionStep,
      identifier?_cons h (c := '(') rfl, hkey, Except.ok_bind, hcall]
  stage := by
    intro _ extra n rest hn hrest
    simp only [bare_call, List.length_cons, List.length_append] at hn
    simp only [bare_call, List.append_assoc, List.cons_append, List.nil_append]
    exact functionReference_call extra h hargs (readFree_members extra hargs (by omega)) rest

theorem readable_entry {name : String} (key : String) (h : isName name = true) :
    Readable (.entry name key) where
  begins := by
    intro _ _ rest
    rw [bare_entry, List.append_assoc]
    exact begins_name h _
  alone := by
    intro extra _ n rest hn hrest _ _
    simp only [bare_entry, List.append_assoc, List.cons_append, List.nil_append]
    refine base_of_named h (Stops.cons rfl) ?_
    simp only [named, identifier?_cons h (c := '[') rfl, fixedKey_quoted, Except.ok_bind]
    rfl
  step := by
    intro _ extra n rest hn hrest
    simp only [bare_entry, List.append_assoc, List.cons_append, List.nil_append, selectionStep,
      identifier?_cons h (c := '[') rfl, fixedKey_quoted, Except.ok_bind]
    rfl
  stage := fun h => absurd h Bool.false_ne_true

end TemplateEngine.Expr
