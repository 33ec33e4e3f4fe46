/-
  TemplateEngine.Proofs.Grammar.Looseness — the rules of expressions, from the tightest on.

  `ruleOf` is the ladder of rules that the grammar of expressions is: a base, a base with
  steps, that with stages, the choice, and the levels of operators. One step of the ladder
  (`loosen`) passes on what the rule below it has read if nothing follows that it could
  add, and it reads nothing where that rule reads nothing.

  Proved:
  - `primaryUpTo_succ`, `expressionUpTo_succ`: the grammar's rules are on the ladder.
  - `ruleOf_absent`: where no base starts, no rule of the ladder reads anything.
  - `not_keyword_of_reads`: what a rule below negation reads does not start with `not`.
-/

import TemplateEngine.Grammar.Expression
import TemplateEngine.Proofs.Except
import TemplateEngine.Proofs.Scan.Number
import TemplateEngine.Proofs.Scan.StringLiteral

namespace TemplateEngine

/-! ## The levels of operators -/

def Operator.level : Operator → Operator.Level
  | startsWith | endsWith | matching | isIn => .test
  | or => .disjunction
  | and => .conjunction
  | equal | different => .equality
  | lessOrEqual | greaterOrEqual | less | greater => .relation
  | add | subtract => .sum
  | wholeDivide | wholeTimes | times | divide | remainder => .product

theorem Operator.mem_operators_iff {op : Operator} {l : Operator.Level} :
    op ∈ l.operators ↔ op.level = l := by
  cases op <;> cases l <;> decide

/-- How loosely a chain of the level holds its operands together. -/
def Operator.Level.looseness : Operator.Level → Nat
  | .product => 4
  | .sum => 5
  | .relation => 7
  | .equality => 8
  | .conjunction => 9
  | .disjunction => 10
  | .test => 11

/-- The level of a chain with these operators. -/
def Operator.Level.ofOperators : List Operator → Operator.Level
  | [] => .product
  | op :: _ => op.level

namespace Grammar

open Scan

/-! ## The ladder -/

/-- A rule, and what is read behind its expression. -/
def behind (rule : Rule Expr) (extend : Expr → List Char → Except Fault (Expr × List Char)) : Rule Expr :=
  fun s => do
    match ← rule s with
    | (none, rest) => return (none, rest)
    | (some e, rest) =>
      let (extended, rest) ← extend e rest
      return (some extended, rest)

/-- The rule one step looser than `tighter`, on the ladder's step `k`. -/
def loosen (expr : Rule Expr) (k : Nat) (tighter : Rule Expr) : Rule Expr :=
  match k with
  | 0 => behind tighter (withSteps expr)
  | 1 => behind tighter (withStages expr)
  | 2 => ternaryRule tighter expr
  | 3 => level .product tighter
  | 4 => level .sum tighter
  | 5 => negatable tighter
  | 6 => level .relation tighter
  | 7 => level .equality tighter
  | 8 => level .conjunction tighter
  | 9 => level .disjunction tighter
  | _ => level .test tighter

def ruleOf (primary expr : Rule Expr) : Nat → Rule Expr
  | 0 => orElse (parenthesized expr) (basic primary expr)
  | k + 1 => loosen expr k (ruleOf primary expr k)

/-- The rule of a looseness, in a text of at most `n + 1` characters. -/
def ruleUpTo (n k : Nat) : Rule Expr := ruleOf (primaryUpTo n) (expressionUpTo n) k

theorem ruleUpTo_succ (n k : Nat) :
    ruleUpTo n (k + 1) = loosen (expressionUpTo n) k (ruleUpTo n k) := rfl

theorem loosen_level (expr tighter : Rule Expr) (l : Operator.Level) :
    loosen expr (l.looseness - 1) tighter = level l tighter := by
  cases l <;> rfl

theorem primaryRule_eq (primary expr : Rule Expr) : primaryRule primary expr = ruleOf primary expr 2 := by
  funext s
  show primaryRule primary expr s =
    behind (behind (ruleOf primary expr 0) (withSteps expr)) (withStages expr) s
  unfold primaryRule behind
  show (ruleOf primary expr 0 s >>= _) = _
  cases ruleOf primary expr 0 s with
  | error f => rfl
  | ok found =>
    obtain ⟨found, rest⟩ := found
    cases found with
    | none => rfl
    | some base =>
      cases hsteps : withSteps expr base rest with
      | error f => simp only [bind, Except.bind, hsteps]
      | ok r => simp only [bind, Except.bind, hsteps, pure, Except.pure]

theorem primaryUpTo_succ (n : Nat) (s : List Char) : primaryUpTo (n + 1) s = ruleUpTo n 2 s := by
  rw [primaryUpTo, primaryRule_eq]
  rfl

theorem expressionUpTo_succ (n : Nat) (s : List Char) : expressionUpTo (n + 1) s = ruleUpTo n 11 s := by
  rw [expressionUpTo, primaryRule_eq]
  rfl

/-! ## Where nothing is read -/

theorem level_absent {operand : Rule Expr} {s : List Char} (h : operand s = .ok (none, s)) (l : Operator.Level) :
    level l operand s = .ok (none, s) := by
  rw [level, h]; rfl

theorem loosen_absent {expr tighter : Rule Expr} {s : List Char} (h : tighter s = .ok (none, s)) {k : Nat}
    (hnot : k = 5 → keyword? "not" s = none) : loosen expr k tighter s = .ok (none, s) := by
  unfold loosen
  split
  · rw [behind, h]; rfl
  · rw [behind, h]; rfl
  · rw [ternaryRule, h]; rfl
  · exact level_absent h _
  · exact level_absent h _
  · simp only [negatable, hnot rfl, h]
  all_goals exact level_absent h _

theorem ruleOf_absent {primary expr : Rule Expr} {s : List Char} (h : ruleOf primary expr 0 s = .ok (none, s))
    {k : Nat} (hnot : 5 < k → keyword? "not" s = none) : ruleOf primary expr k s = .ok (none, s) := by
  induction k with
  | zero => exact h
  | succ k ih => exact loosen_absent (ih fun hk => hnot (by omega)) fun hk => hnot (by omega)

/-! ## Where no base starts -/

/-- The characters other than letters that a base starts with. -/
def opensBase (c : Char) : Bool :=
  isDigit c || c == '-' || c == '"' || c == '\'' || c == '(' || c == '[' || c == '\x7b'

theorem orElse_of_absent {α : Type} {first second : Rule α} {s : List Char} (h : first s = .ok (none, s)) :
    orElse first second s = second s := by
  rw [orElse, h]; rfl

theorem orElse_of_reads {α : Type} {first second : Rule α} {s rest : List Char} {x : α}
    (h : first s = .ok (some x, rest)) : orElse first second s = .ok (some x, rest) := by
  rw [orElse, h]; rfl

theorem parenthesized_absent {expr : Rule Expr} {s : List Char} (h : Stops (· == '(') s) :
    parenthesized expr s = .ok (none, s) := by
  rw [parenthesized, symbol?_of_stops h rfl]

theorem enclosed_absent (opening closing : String) (expr : Rule Expr) {s : List Char} {p : Char → Bool}
    (h : Stops p s) (ho : opening.toList.head?.any p = true) :
    enclosed opening closing expr s = .ok (none, s) := by
  rw [enclosed, symbol?_of_stops h ho]

theorem fixedKey_absent {p : Char → Bool} {rest : List Char} (h : Stops p rest) (hp : p '[' = true) :
    fixedKey rest = .ok (none, rest) := by
  rw [fixedKey, symbol?_of_stops h (by simpa using hp)]

/-- Two bounds with `..` between them, where they stand. -/
def range? {α : Type} (bound : List Char → Option (α × List Char)) (s : List Char) :
    Option ((α × α) × List Char) := do
  let (first, rest) ← bound s
  let rest ← symbol? ".." (skipSpacing rest)
  let (last, rest) ← bound rest
  return ((first, last), skipSpacing rest)

theorem range_eq {α : Type} {bound : Scanner α} {bound? : List Char → Option (α × List Char)}
    (h : ∀ s, bound s = stay bound? s) (s : List Char) : range bound s = stay (range? bound?) s := by
  simp only [range, range?, h, stay]
  cases bound? s with
  | none => rfl
  | some found =>
    obtain ⟨first, rest⟩ := found
    dsimp
    cases symbol? ".." (skipSpacing rest) with
    | none => rfl
    | some rest =>
      dsimp
      cases bound? rest <;> rfl

theorem range?_absent {α : Type} {bound : List Char → Option (α × List Char)} {s : List Char}
    (h : bound s = none) : range? bound s = none := by
  rw [range?, h]; rfl

/-- A range of either kind is a list, and nothing is tried behind it. -/
theorem listLiteral_eq (expr : Rule Expr) (s : List Char) :
    listLiteral expr s =
      match range? integer? s with
      | some ((first, last), rest) => .ok (some (.intRange first last), rest)
      | none =>
        match range? letter? s with
        | some ((first, last), rest) => .ok (some (.charRange first last), rest)
        | none => do
          let (items, rest) ← enclosed "[" "]" expr s
          return (items.map .list, rest) := by
  simp only [listLiteral, range_eq integer_eq, range_eq letter_eq, stay]
  cases range? integer? s with
  | some found => rfl
  | none =>
    dsimp
    cases range? letter? s <;> rfl

theorem listLiteral_absent {expr : Rule Expr} {s : List Char} (hnumber : range? integer? s = none)
    (hquote : Stops (· == '\'') s) (hbracket : Stops (· == '[') s) : listLiteral expr s = .ok (none, s) := by
  rw [listLiteral_eq, hnumber, range?_absent (letter?_of_stops hquote),
    enclosed_absent "[" "]" expr hbracket rfl]
  rfl

theorem mapLiteral_absent {expr : Rule Expr} {s : List Char} (h : Stops (· == '\x7b') s) :
    mapLiteral expr s = .ok (none, s) := by
  rw [mapLiteral, symbol?_of_stops h rfl]

/-- No literal other than a list or map starts here. -/
theorem literal_absent {s : List Char} (hdouble : Stops (· == '"') s) (hsingle : Stops (· == '\'') s)
    (hword : ∀ word ∈ ["true", "false", "null"], keyword? word s = none) (hfraction : double? s = none)
    (hnumber : integer? s = none) : literal s = .ok (none, s) := by
  have hquoted : quotedLiteral s = .ok (none, s) := by
    rw [quotedLiteral, string?_of_stops hdouble hsingle]
    rfl
  have hliteral (word : String) (l : Literal) (h : word ∈ ["true", "false", "null"]) :
      wordLiteral word l s = .ok (none, s) := by
    rw [wordLiteral, hword word h]
  have hfloat : numeral double .float s = .ok (none, s) := by rw [numeral, double_eq, stay, hfraction]
  have hint : numeral integer .int s = .ok (none, s) := by rw [numeral, integer_eq, stay, hnumber]
  have hscalar : scalar s = .ok (none, s) := by
    rw [scalar, orElse_of_absent hquoted, orElse_of_absent (hliteral "true" _ (by decide)),
      orElse_of_absent (hliteral "false" _ (by decide)), orElse_of_absent hfloat, orElse_of_absent hint,
      hliteral "null" _ (by decide)]
  rw [literal, hscalar]
  rfl

theorem base_absent {primary expr : Rule Expr} {s : List Char} (hhead : Stops opensBase s)
    (hname : identifier? s = none) (hword : ∀ word ∈ ["true", "false", "null"], keyword? word s = none) :
    ruleOf primary expr 0 s = .ok (none, s) := by
  have hdigit : Stops isDigit s := hhead.mono fun c hc => by simp [opensBase, hc]
  have hminus : Stops (· == '-') s := hhead.char rfl
  have hint := integer?_of_stops hminus hdigit
  have hliteral : literal s = .ok (none, s) := literal_absent (hhead.char rfl) (hhead.char rfl) hword
    (double?_of_stops hminus hdigit) hint
  have hnamed : named primary expr s = .ok (none, s) := by rw [named, hname]
  have hlist : listLiteral expr s = .ok (none, s) :=
    listLiteral_absent (range?_absent hint) (hhead.char rfl) (hhead.char rfl)
  have hmap : mapLiteral expr s = .ok (none, s) := mapLiteral_absent (hhead.char (c := '\x7b') rfl)
  rw [ruleOf, orElse_of_absent (parenthesized_absent (hhead.char rfl)), basic, orElse_of_absent hlist,
    orElse_of_absent hmap, orElse_of_absent hliteral, hnamed]

theorem literalWords_keywords : ∀ word ∈ ["true", "false", "null"], isKeyword word = true := by decide

theorem letter_apart {c : Char} (h : isLetter c = true) : opensBase c = false := by
  refine Bool.eq_false_iff.mpr fun ho => ?_
  simp only [opensBase, Bool.or_eq_true, beq_iff_eq] at ho
  rcases ho with (((((ho | rfl) | rfl) | rfl) | rfl) | rfl) | rfl
  · exact Bool.noConfusion (ho.symm.trans (letter_not_digit h))
  all_goals exact absurd h (by decide)

theorem stops_name {name : String} (h : isName name = true) (rest : List Char) :
    Stops opensBase (name.toList ++ rest) := by
  obtain ⟨⟨c, t, hname, hc⟩, -⟩ := isName_iff.mp h
  rw [hname]
  exact Stops.cons (letter_apart hc)

/-- A name is no literal. -/
theorem literal_absent_of_name {name : String} (h : isName name = true) {rest : List Char}
    (hrest : Stops isLetterOrDigit rest) : literal (name.toList ++ rest) = .ok (none, name.toList ++ rest) := by
  obtain ⟨-, hall, hkey⟩ := isName_iff.mp h
  have hhead := stops_name h rest
  have hdigit : Stops isDigit (name.toList ++ rest) := hhead.mono fun c hc => by simp [opensBase, hc]
  refine literal_absent (hhead.char rfl) (hhead.char rfl) (fun word hword => ?_)
    (double?_of_stops (hhead.char rfl) hdigit) (integer?_of_stops (hhead.char rfl) hdigit)
  have hkeyword := literalWords_keywords word hword
  refine keyword?_of_takeWhile hkeyword fun htake => ?_
  rw [takeWhile_run hall hrest] at htake
  rw [String.toList_injective htake, hkeyword] at hkey
  cases hkey

/-- A keyword that is no literal starts no base. -/
theorem base_absent_of_keyword (word : String) {primary expr : Rule Expr} (hkey : isKeyword word = true)
    (hword : word ∉ ["true", "false", "null"]) {rest : List Char} (hrest : Stops isLetterOrDigit rest) :
    ruleOf primary expr 0 (word.toList ++ rest) = .ok (none, word.toList ++ rest) := by
  have hletters := keyword_letters hkey
  have htake : (word.toList ++ rest).takeWhile isLetterOrDigit = word.toList := takeWhile_run hletters hrest
  have hstart : ∀ w ∈ keywords, w.toList.head?.any fun c => !opensBase c := by decide
  have hhead : Stops opensBase (word.toList ++ rest) := by
    have := hstart word (List.contains_iff_mem.mp hkey)
    cases hw : word.toList with
    | nil => rw [hw] at this; cases this
    | cons c cs => rw [hw] at this; exact Stops.cons (by simpa using this)
  refine base_absent hhead (identifier?_keyword ?_) fun w hw => keyword?_of_takeWhile ?_ ?_
  · rw [htake, String.ofList_toList]; exact hkey
  · exact literalWords_keywords w hw
  · rw [htake]
    intro he
    exact hword (String.toList_injective he ▸ hw)

/-- What a rule tighter than negation reads does not start with `not`. -/
theorem not_keyword_of_reads {primary expr : Rule Expr} {k : Nat} (hk : k ≤ 5) {s : List Char}
    {e : Expr} {rest : List Char} (h : ruleOf primary expr k s = .ok (some e, rest)) :
    keyword? "not" s = none := by
  cases hnot : wordEnd? "not" s with
  | none => rw [keyword?, hnot]; rfl
  | some rest =>
    have hkey : isKeyword "not" = true := by decide
    obtain ⟨htake, hdrop⟩ := (wordEnd?_eq_some_iff (keyword_letters hkey)).mp hnot
    have hs : s = "not".toList ++ rest := by rw [← htake, ← hdrop, List.takeWhile_append_dropWhile]
    have hrest : Stops isLetterOrDigit rest := hdrop ▸ stops_dropWhile
    have habsent : ruleOf primary expr 0 s = .ok (none, s) := by
      rw [hs]
      exact base_absent_of_keyword "not" hkey (by decide) hrest
    rw [ruleOf_absent habsent fun hk' => absurd hk' (by omega)] at h
    cases h

end Grammar

end TemplateEngine
