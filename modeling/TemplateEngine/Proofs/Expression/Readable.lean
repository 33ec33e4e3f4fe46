/-
  TemplateEngine.Proofs.Expression.Readable — reading written expressions back.

  `Readable e` says that each text of `e` is read as `e`: without parentheses by the rule
  of its looseness, and as a step or stage by the rule for those. So is its text at any
  place (`Readable.at_place`), and so are members in brackets, steps, stages and operands,
  one after the other, if each of them is readable.
-/

import TemplateEngine.Proofs.Expression.Print
import TemplateEngine.Proofs.Grammar.Follow

namespace TemplateEngine.Expr

open Grammar Scan
open Operator (Level)

/-- Every text of the expression is read as that expression, whatever follows that does
    not carry it on. -/
structure Readable (e : Expr) : Prop where
  begins : ∀ extra last rest, Begins (bare extra last e ++ rest)
  alone : ∀ extra last n rest, (bare extra last e).length ≤ n + 1 → Follows e.looseness rest →
    (last = true → Follows 11 rest) → (e.isTernary = true → last = true) →
      ruleUpTo n e.looseness (bare extra last e ++ rest) = .ok (some e, skipSpacing rest)
  step : e.isStep = true → ∀ extra n rest, (bare extra true e).length ≤ n → Stops joins rest →
    selectionStep (expressionUpTo n) (bare extra true e ++ rest) = .ok (some e, skipSpacing rest)
  stage : e.isStage = true → ∀ extra n rest, (bare extra true e).length ≤ n → Stops joins rest →
    functionReference (expressionUpTo n) (bare extra true e ++ rest) = .ok (some e, skipSpacing rest)

theorem looseness_le (e : Expr) : e.looseness ≤ 11 := by
  cases e with
  | chain operands operators =>
    show (Level.ofOperators operators).looseness ≤ 11
    cases Level.ofOperators operators <;> decide
  | _ => exact Nat.le_of_ble_eq_true rfl

variable (extra : Place → Expr → Bool)

namespace Readable

/-! ## At a place -/

theorem begins_written {e : Expr} (h : Readable e) (place : Place) (rest : List Char) :
    Begins (written extra place e ++ rest) := by
  unfold written placed
  split
  · exact .cons rfl (by decide) _
  · exact h.begins extra place.last rest

theorem required_bare {e : Expr} (h : Readable e) {n : Nat} {rest : List Char}
    (hn : (bare extra true e).length + 1 ≤ n) (hrest : Follows 11 rest) :
    required (expressionUpTo n) (bare extra true e ++ rest) = .ok (e, skipSpacing rest) := by
  cases n with
  | zero => exact absurd hn (Nat.not_succ_le_zero _)
  | succ n =>
    have hread := ruleUpTo_passes e.looseness_le (Nat.le_refl 11)
      (h.alone extra true n rest (by omega) (hrest.mono e.looseness_le) (fun _ => hrest) fun _ => rfl) hrest
    rw [required, expressionUpTo_succ, hread]
    rfl

theorem in_parentheses {e : Expr} (h : Readable e) {n : Nat} (rest : List Char)
    (hn : (bare extra true e).length + 1 ≤ n) :
    ruleUpTo n 0 ('(' :: (bare extra true e ++ ')' :: rest)) = .ok (some e, skipSpacing rest) := by
  have hopen := (h.begins extra true (')' :: rest)).symbol?_append "("
  have hinner := h.required_bare extra hn (.closer 11 (c := ')') rfl rest)
  rw [skipSpacing_of_unspaced (.cons rest rfl (by decide))] at hinner
  have hread : parenthesized (expressionUpTo n) ("(".toList ++ (bare extra true e ++ ')' :: rest)) =
      .ok (some e, skipSpacing rest) := by
    simp only [parenthesized, hopen, hinner, Except.ok_bind]
    rfl
  show orElse _ _ ("(".toList ++ (bare extra true e ++ ')' :: rest)) = _
  rw [orElse, hread]
  rfl

theorem at_place {e : Expr} (h : Readable e) (place : Place) (hplace : place.bound ≤ 11) {n : Nat}
    {rest : List Char} (hn : (written extra place e).length ≤ n + 1) (hrest : Follows place.bound rest)
    (hlast : place.last = true → Follows 11 rest) :
    ruleUpTo n place.bound (written extra place e ++ rest) = .ok (some e, skipSpacing rest) := by
  unfold written placed at hn ⊢
  split at hn
  · rename_i hparens
    rw [if_pos hparens, List.cons_append, List.append_assoc]
    simp only [List.length_cons, List.length_append, List.length_nil] at hn
    exact ruleUpTo_passes (Nat.zero_le _) hplace (h.in_parentheses extra rest (by omega)) hrest
  · rename_i hparens
    rw [if_neg hparens]
    have hneeds : needsParentheses place e = false := by
      simpa using (Bool.or_eq_false_iff.mp (Bool.eq_false_iff.mpr hparens)).1
    obtain ⟨hbound, hternary⟩ := Bool.or_eq_false_iff.mp hneeds
    have hloose : e.looseness ≤ place.bound := Nat.le_of_not_lt (of_decide_eq_false hbound)
    have hchoice : e.isTernary = true → place.last = true := by
      intro he
      rw [he] at hternary
      simpa using hternary
    have hread := h.alone extra place.last n rest hn (hrest.mono hloose) hlast hchoice
    exact ruleUpTo_passes hloose hplace hread hrest

theorem at_free {e : Expr} (h : Readable e) {n : Nat} {rest : List Char}
    (hn : (written extra .free e).length ≤ n) (hrest : Follows 11 rest) :
    expressionUpTo n (written extra .free e ++ rest) = .ok (some e, skipSpacing rest) := by
  cases n with
  | zero =>
    obtain ⟨c, t, ht, -⟩ := h.begins_written extra .free []
    rw [List.append_nil] at ht
    rw [ht] at hn
    exact absurd hn (Nat.not_succ_le_zero _)
  | succ n =>
    rw [expressionUpTo_succ]
    exact h.at_place extra .free (Nat.le_refl 11) hn hrest fun _ => hrest

theorem required_free {e : Expr} (h : Readable e) {n : Nat} {rest : List Char}
    (hn : (written extra .free e).length ≤ n) (hrest : Follows 11 rest) :
    required (expressionUpTo n) (written extra .free e ++ rest) = .ok (e, skipSpacing rest) := by
  rw [required, h.at_free extra hn hrest]
  rfl

end Readable

/-! ## Members -/

/-- What stands behind a first member: the others, each behind a comma, and the closing
    character. -/
def otherMembers (closing : Char) (texts : List (List Char)) (rest : List Char) : List Char :=
  texts.flatMap (',' :: ' ' :: ·) ++ closing :: rest

theorem otherMembers_cons (closing : Char) (text : List Char) (texts : List (List Char))
    (rest : List Char) :
    otherMembers closing (text :: texts) rest =
      ",".toList ++ ' ' :: (text ++ otherMembers closing texts rest) := by
  rw [otherMembers, List.flatMap_cons, List.append_assoc]
  rfl

theorem separated_append (closing : Char) (text : List Char) (texts : List (List Char))
    (rest : List Char) :
    separated (text :: texts) ++ closing :: rest = text ++ otherMembers closing texts rest := by
  rw [separated, List.append_assoc]
  rfl

/-- They carry nothing on. -/
theorem follows_otherMembers {closing : Char} (hclose : closes closing = true) (texts : List (List Char))
    (rest : List Char) : Follows 11 (otherMembers closing texts rest) := by
  cases texts with
  | nil => exact .closer 11 hclose rest
  | cons text texts => exact .closer 11 (c := ',') rfl _

theorem skipSpacing_otherMembers {closing : Char} (hclose : closes closing = true)
    (texts : List (List Char)) (rest : List Char) :
    skipSpacing (otherMembers closing texts rest) = otherMembers closing texts rest := by
  cases texts with
  | nil => exact skipSpacing_closer hclose rest
  | cons text texts => exact skipSpacing_closer (c := ',') rfl _

theorem length_le_otherMembers (closing : Char) (texts : List (List Char)) (rest : List Char) :
    texts.length ≤ (otherMembers closing texts rest).length := by
  have := length_le_length_flatMap (f := (',' :: ' ' :: ·)) texts fun _ => Nat.zero_lt_succ _
  rw [otherMembers, List.length_append]
  omega

theorem length_le_separated {texts : List (List Char)} {text : List Char} (h : text ∈ texts) :
    text.length ≤ (separated texts).length := by
  cases texts with
  | nil => cases h
  | cons first texts =>
    rw [separated, List.length_append]
    rcases List.mem_cons.mp h with rfl | h
    · omega
    · have := length_le_flatMap (f := (',' :: ' ' :: ·)) h
      simp only [List.length_cons] at this
      omega

/-- The rule reads the expression where any may stand. -/
def ReadFree (expr : Rule Expr) (e : Expr) : Prop :=
  ∀ rest, Follows 11 rest → required expr (written extra .free e ++ rest) = .ok (e, skipSpacing rest)

theorem afterCommas_members {closing : Char} (hclose : closes closing = true) (hcomma : closing ≠ ',')
    {items : List Expr} (hitems : ∀ e ∈ items, Readable e) {expr : Rule Expr}
    (hexpr : ∀ e ∈ items, ReadFree extra expr e) (rest : List Char) {m : Nat} (hm : items.length ≤ m) :
    afterCommas expr m (otherMembers closing (items.map (written extra .free)) rest) =
      .ok (items, closing :: rest) := by
  have hend : furtherMember expr (closing :: rest) = .ok (none, closing :: rest) :=
    furtherMember_eq_none_iff.mpr (symbol?_of_stops (Stops.cons (p := (· == ',')) (by simpa using hcomma)) rfl)
  rw [afterCommas_eq_rounds]
  refine rounds_written (fun items => otherMembers closing (items.map (written extra .free)) rest) hend
    (fun e more hmore => ?_) hm
  have hmem : e ∈ items := hmore.mem (List.mem_cons_self ..)
  have hread := hexpr e hmem _ (follows_otherMembers hclose (more.map (written extra .free)) rest)
  rw [skipSpacing_otherMembers hclose] at hread
  have hcomma := ((hitems e hmem).begins_written extra .free
    (otherMembers closing (more.map (written extra .free)) rest)).symbol?_space ","
  rw [List.map_cons, otherMembers_cons]
  exact furtherMember_eq_some_iff.mpr ⟨_, hcomma, required_eq_ok_iff.mp hread⟩

/-- Members in brackets are read by the rule of these brackets. -/
theorem enclosed_members (opening closing : String) {o c : Char} (ho : opening.toList = [o])
    (hc : closing.toList = [c]) (hclose : closes c = true) (hcomma : c ≠ ',') {items : List Expr}
    (hitems : ∀ e ∈ items, Readable e) {expr : Rule Expr} (hexpr : ∀ e ∈ items, ReadFree extra expr e)
    (rest : List Char) :
    enclosed opening closing expr (o :: (separated (texts extra items) ++ c :: rest)) =
      .ok (some items, skipSpacing rest) := by
  have hopens : ∀ s, symbol? opening (o :: s) = some (skipSpacing s) := by
    intro s
    show symbol? opening ([o] ++ s) = _
    rw [← ho, symbol?_append]
  have hcloses : symbol? closing (c :: rest) = some (skipSpacing rest) := by
    show symbol? closing ([c] ++ rest) = _
    rw [← hc, symbol?_append]
  rw [texts_eq_map]
  cases items with
  | nil =>
    show enclosed opening closing _ (o :: c :: rest) = _
    simp only [enclosed, hopens, skipSpacing_closer hclose, hcloses]
  | cons e items =>
    have he := hitems e (List.mem_cons_self ..)
    have hbegins := he.begins_written extra .free
      (otherMembers c (items.map (written extra .free)) rest)
    have hnone := hbegins.not_closer hc hclose
    have hfirst := hexpr e (List.mem_cons_self ..) _
      (follows_otherMembers hclose (items.map (written extra .free)) rest)
    rw [skipSpacing_otherMembers hclose] at hfirst
    have hmany := length_le_otherMembers c (items.map (written extra .free)) rest
    rw [List.length_map] at hmany
    have hmore := afterCommas_members extra hclose hcomma
      (fun e he => hitems e (List.mem_cons_of_mem _ he))
      (fun e he => hexpr e (List.mem_cons_of_mem _ he)) rest hmany
    rw [List.map_cons, separated_append]
    simp only [enclosed, hopens, skipSpacing_of_unspaced hbegins.unspaced, hnone, hfirst, hmore,
      Except.ok_bind, requiredSymbol, hcloses]
    rfl

theorem readFree_members {items : List Expr} (hitems : ∀ e ∈ items, Readable e) {n : Nat}
    (hn : (separated (texts extra items)).length ≤ n) : ∀ e ∈ items, ReadFree extra (expressionUpTo n) e := by
  intro e he rest hrest
  rw [texts_eq_map] at hn
  exact (hitems e he).required_free extra
    (Nat.le_trans (length_le_separated (List.mem_map_of_mem he)) hn) hrest

/-! ## Entries of maps -/

theorem mapKey_quoted (key : String) (rest : List Char) :
    mapKey (quoted '"' key ++ rest) = .ok (some key, rest) := by
  have hname : identifier? (quoted '"' key ++ rest) = none := identifier?_of_stops (Stops.cons rfl)
  rw [mapKey, hname]
  exact string?_quoted (.inl rfl) key rest

theorem requiredSymbol_colon {s : List Char} (h : Begins s) (start : List Char) :
    requiredSymbol ":" start (skipSpacing (':' :: ' ' :: s)) = .ok s := by
  have hcolon : symbol? ":" (':' :: ' ' :: s) = some s := h.symbol?_space ":"
  rw [skipSpacing_closer rfl, requiredSymbol, hcolon]

theorem begins_entryText (m : String × Expr) (rest : List Char) : Begins (entryText extra m ++ rest) :=
  .cons rfl (by decide) _

theorem mapEntries_members {n : Nat} (start rest : List Char) (m : String × Expr)
    {ms : List (String × Expr)} (hms : ∀ x ∈ m :: ms, Readable x.2)
    (hn : ∀ x ∈ m :: ms, (written extra .free x.2).length ≤ n) {k : Nat} (hk : ms.length < k) :
    mapEntries (expressionUpTo n) start k
        (entryText extra m ++ otherMembers '\x7d' (ms.map (entryText extra)) rest) =
      .ok (m :: ms, skipSpacing rest) := by
  induction ms generalizing m k with
  | nil =>
    cases k with
    | zero => exact absurd hk (Nat.not_lt_zero _)
    | succ k =>
      have hm := hms m (List.mem_cons_self ..)
      have hread := hm.required_free extra (hn m (List.mem_cons_self ..))
        (.closer 11 (c := '\x7d') rfl rest)
      rw [skipSpacing_closer rfl] at hread
      have hcolon := requiredSymbol_colon (hm.begins_written extra .free ('\x7d' :: rest)) start
      have hcomma : symbol? "," ('\x7d' :: rest) = none := rfl
      have hclose : requiredSymbol "\x7d" start ('\x7d' :: rest) = .ok (skipSpacing rest) := rfl
      show mapEntries _ _ _ (entryText extra m ++ '\x7d' :: rest) = _
      simp only [mapEntries, entryText, List.append_assoc, List.cons_append, mapKey_quoted, hcolon,
        hread, hcomma, hclose, Except.ok_bind]
      rfl
  | cons m' ms ih =>
    cases k with
    | zero => exact absurd hk (Nat.not_lt_zero _)
    | succ k =>
      have hm := hms m (List.mem_cons_self ..)
      have htail := ih m' (fun x hx => hms x (List.mem_cons_of_mem _ hx))
        (fun x hx => hn x (List.mem_cons_of_mem _ hx)) (Nat.lt_of_succ_lt_succ hk)
      have hread := hm.required_free extra (hn m (List.mem_cons_self ..))
        (follows_otherMembers (rfl : closes '\x7d' = true) ((m' :: ms).map (entryText extra)) rest)
      rw [skipSpacing_otherMembers rfl] at hread
      have hcolon := requiredSymbol_colon (hm.begins_written extra .free
        (otherMembers '\x7d' ((m' :: ms).map (entryText extra)) rest)) start
      have hcomma := (begins_entryText extra m'
        (otherMembers '\x7d' (ms.map (entryText extra)) rest)).symbol?_space ","
      rw [← otherMembers_cons, ← List.map_cons] at hcomma
      rw [entryText, List.append_assoc, mapEntries]
      simp only [List.cons_append, mapKey_quoted, hcolon, hread, hcomma, htail, Except.ok_bind]
      rfl

theorem mapLiteral_members {entries : List (String × Expr)} (hentries : ∀ m ∈ entries, Readable m.2)
    {n : Nat} (hn : (separated (entryTexts extra entries)).length ≤ n) (rest : List Char) :
    mapLiteral (expressionUpTo n) ('\x7b' :: (separated (entryTexts extra entries) ++ '\x7d' :: rest)) =
      .ok (some (.map entries), skipSpacing rest) := by
  rw [entryTexts_eq_map] at hn ⊢
  have hopen : ∀ s, symbol? "\x7b" ('\x7b' :: s) = some (skipSpacing s) := fun s => rfl
  cases entries with
  | nil =>
    have hclose : symbol? "\x7d" ('\x7d' :: rest) = some (skipSpacing rest) := rfl
    show mapLiteral _ ('\x7b' :: '\x7d' :: rest) = _
    simp only [mapLiteral, hopen, skipSpacing_closer (c := '\x7d') rfl, hclose]
  | cons m ms =>
    have hlen : ∀ x ∈ m :: ms, (written extra .free x.2).length ≤ n := by
      intro x hx
      have := length_le_separated (List.mem_map_of_mem (f := entryText extra) hx)
      simp only [entryText, List.length_append, List.length_cons] at this
      omega
    have hbegins := begins_entryText extra m (otherMembers '\x7d' (ms.map (entryText extra)) rest)
    have hnone : symbol? "\x7d" _ = none := hbegins.not_closer (c := '\x7d') rfl rfl
    have hcount : ms.length < (entryText extra m ++
        otherMembers '\x7d' (ms.map (entryText extra)) rest).length + 1 := by
      have := length_le_otherMembers '\x7d' (ms.map (entryText extra)) rest
      rw [List.length_map] at this
      rw [List.length_append]
      omega
    rw [List.map_cons, separated_append]
    simp only [mapLiteral, hopen, skipSpacing_of_unspaced hbegins.unspaced, hnone,
      mapEntries_members extra _ rest m hentries hlen hcount, Except.ok_bind]
    rfl

/-! ## Steps and stages -/

/-- Parts behind a mark are read one after the other, if each is read behind its mark and
    nothing is read behind the last. -/
theorem parts_written (mark : List Char) {opening : List Char → Option (List Char)} {part : Rule Expr}
    {text : Expr → List Char} (hmark : ∀ more, Stops joins (mark ++ more)) {rest : List Char}
    (hrest : Stops joins rest)
    (hend : ∀ r, opening (skipSpacing rest) = some r → part r = .ok (none, r)) {es : List Expr}
    (hopen : ∀ e ∈ es, ∀ more,
      opening (skipSpacing (mark ++ (text e ++ more))) = some (text e ++ more))
    (hpart : ∀ e ∈ es, ∀ more, Stops joins more → part (text e ++ more) = .ok (some e, skipSpacing more))
    {m : Nat} (hm : es.length ≤ m) :
    parts opening part m (skipSpacing (es.flatMap (mark ++ text ·) ++ rest)) =
      .ok (es, skipSpacing rest) := by
  have hstop : ∀ more : List Expr, Stops joins (more.flatMap (mark ++ text ·) ++ rest) := by
    intro more
    cases more with
    | nil => exact hrest
    | cons e more =>
      rw [List.flatMap_cons, List.append_assoc, List.append_assoc]
      exact hmark _
  rw [parts_eq_rounds]
  refine rounds_written (fun es => skipSpacing (es.flatMap (mark ++ text ·) ++ rest))
    (markedPart_eq_none_iff.mpr fun r hr => ⟨r, hend r hr⟩) (fun e more hmore => ?_) hm
  have hmem : e ∈ es := hmore.mem (List.mem_cons_self ..)
  rw [List.flatMap_cons, List.append_assoc, List.append_assoc]
  exact markedPart_eq_some_iff.mpr ⟨_, hopen e hmem _, hpart e hmem _ (hstop more)⟩

/-! ## Chains -/

/-- The text of a chain: its first operand, and operators with the others. -/
def chainText (l : Level) (last : Bool) (first : Expr) (more : List (Operator × Expr)) : List Char :=
  chained extra l last (first :: more.map (·.2)) (more.map (·.1))

theorem chainText_cons (l : Level) (last : Bool) (first : Expr) (op : Operator) (e : Expr)
    (more : List (Operator × Expr)) :
    chainText extra l last first ((op, e) :: more) = written extra (.operand l false) first ++
      ' ' :: (op.symbol.toList ++ ' ' :: chainText extra l last e more) := rfl

theorem begins_chainText {first : Expr} (h : Readable first) (l : Level) (last : Bool)
    (more : List (Operator × Expr)) (rest : List Char) : Begins (chainText extra l last first more ++ rest) := by
  cases more with
  | nil => exact h.begins_written extra (.operand l last) rest
  | cons m more =>
    rw [chainText_cons, List.append_assoc]
    exact h.begins_written extra (.operand l false) _

theorem length_le_chainText (l : Level) (last : Bool) (first : Expr) (more : List (Operator × Expr)) :
    more.length ≤ (chainText extra l last first more).length := by
  induction more generalizing first with
  | nil => exact Nat.zero_le _
  | cons m more ih =>
    obtain ⟨op, e⟩ := m
    have := ih e
    simp only [chainText_cons, List.length_append, List.length_cons]
    omega

/-- What is left of a chain behind its first operand. -/
def chainRest (l : Level) (last : Bool) (rest : List Char) : List (Operator × Expr) → List Char
  | [] => skipSpacing rest
  | (op, e) :: more => op.symbol.toList ++ ' ' :: (chainText extra l last e more ++ rest)

theorem length_le_chainRest (l : Level) (last : Bool) (rest : List Char) (more : List (Operator × Expr)) :
    more.length ≤ (chainRest extra l last rest more).length := by
  cases more with
  | nil => exact Nat.zero_le _
  | cons m more =>
    have := length_le_chainText extra l last m.2 more
    simp only [chainRest, List.length_append, List.length_cons]
    omega

/-- An operand of a chain is no longer than the chain, and so is the chain from there on. -/
theorem chainText_length_le (l : Level) (last : Bool) (first : Expr) {op : Operator} {e : Expr}
    {more all : List (Operator × Expr)} (h : (op, e) :: more <:+ all) :
    (chainText extra l last e more).length ≤ (chainText extra l last first all).length := by
  induction all generalizing first with
  | nil => exact absurd (List.suffix_nil.mp h) (List.cons_ne_nil _ _)
  | cons m all ih =>
    obtain ⟨op', e'⟩ := m
    simp only [chainText_cons, List.length_append, List.length_cons]
    rcases List.suffix_cons_iff.mp h with heq | h
    · obtain ⟨hm, rfl⟩ := List.cons.inj heq
      obtain ⟨-, rfl⟩ := Prod.mk.inj hm
      omega
    · have := ih e' h
      omega

section Operands

variable {l : Level} {last : Bool} {n : Nat} {rest : List Char} (hrest : Follows l.looseness rest)
  (hlast : last = true → Follows 11 rest)
include hrest hlast

/-- An operand of a chain is read up to the operator behind it, or up to the end. -/
theorem operand_written {e : Expr} (he : Readable e) {more : List (Operator × Expr)}
    (hmore : ∀ m ∈ more, m.1.level = l) (hn : (chainText extra l last e more).length ≤ n + 1) :
    ruleUpTo n (l.looseness - 1) (chainText extra l last e more ++ rest) =
      .ok (some e, chainRest extra l last rest more) := by
  have hplace : l.looseness - 1 ≤ 11 := by cases l <;> decide
  cases more with
  | nil => exact he.at_place extra (.operand l last) hplace hn (hrest.mono (Nat.sub_le _ 1)) hlast
  | cons m more =>
    obtain ⟨op, e'⟩ := m
    have hlevel : op.level = l := hmore (op, e') (List.mem_cons_self ..)
    have hfollows := Follows.symbol op (chainText extra l last e' more ++ rest)
    rw [chainText_cons] at hn ⊢
    rw [List.length_append] at hn
    have hread := he.at_place extra (.operand l false) hplace (n := n) (by omega) (hlevel ▸ hfollows)
      fun h => absurd h Bool.false_ne_true
    rw [skipSpacing_space rfl, skipSpacing_of_unspaced (unspaced_symbol op _)] at hread
    simp only [List.append_assoc, List.cons_append]
    exact hread

/-- Operators with operands of one level are read one after the other. -/
theorem chainTail_written {first : Expr} {more : List (Operator × Expr)}
    (hmore : ∀ m ∈ more, m.1.level = l ∧ Readable m.2)
    (hn : (chainText extra l last first more).length ≤ n + 1) {m : Nat} (hm : more.length ≤ m) :
    chainTail l.operators (ruleUpTo n (l.looseness - 1)) m (chainRest extra l last rest more) =
      .ok (more, skipSpacing rest) := by
  have hend : continuation l.operators (ruleUpTo n (l.looseness - 1)) (skipSpacing rest) =
      .ok (none, skipSpacing rest) :=
    continuation_eq_none_iff.mpr fun op after hop => ⟨after, hrest.operator l (Nat.le_refl _) op after hop n⟩
  rw [chainTail_eq_rounds]
  refine rounds_written (chainRest extra l last rest) hend (fun m others hothers => ?_) hm
  obtain ⟨hlevel, he⟩ := hmore m (hothers.mem (List.mem_cons_self ..))
  obtain ⟨op, e⟩ := m
  have hop := operator?_symbol op (chainText extra l last e others ++ rest)
  rw [hlevel, (begins_chainText extra he l last others rest).skipSpacing_space] at hop
  have hshort := chainText_length_le extra l last first hothers
  exact continuation_eq_some_iff.mpr ⟨_, hop, operand_written extra hrest hlast he
    (fun m hm => (hmore m (hothers.mem (List.mem_cons_of_mem _ hm))).1) (Nat.le_trans hshort hn)⟩

end Operands

end TemplateEngine.Expr
