/-
  TemplateEngine.Proofs.Grammar.Loops — members read one behind another.

  Operands behind operators, members behind commas, steps and stages behind their marks: each
  loop of the grammar of expressions is `rounds` of one rule, up to the first place where the
  rule reads nothing. So what holds of every loop is proved of `rounds`, by one induction, and
  for the single loop only of what it does in a round.

  Proved:
  - `chainTail_eq_rounds`, `parts_eq_rounds`, `afterCommas_eq_rounds`: loops as rounds.
  - `rounds_succ_iff`: rounds, read from their results.
  - `rounds_written`: members written one behind another are read as these members.
  - `continuation_eq_some_iff`, `markedPart_eq_some_iff`, `furtherMember_eq_some_iff`: what
    each rule reads in a round.
-/

import TemplateEngine.Proofs.Grammar.Inversion

namespace TemplateEngine.Grammar

open Scan TemplateEngine.Except

/-! ## Rounds of a rule -/

/-- At most `n` rounds, up to the first that does not apply, which is left unread. -/
def rounds {α : Type} (round : Rule α) : Nat → List Char → Except Fault (List α × List Char)
  | 0, s => .ok ([], s)
  | n + 1, s => do
    match ← round s with
    | (none, _) => return ([], s)
    | (some x, rest) =>
      let (more, rest) ← rounds round n rest
      return (x :: more, rest)

section Rounds

variable {α : Type} {round : Rule α} {n : Nat} {s rest : List Char}

theorem rounds_succ_iff {xs : List α} :
    rounds round (n + 1) s = .ok (xs, rest) ↔
      ([] = xs ∧ s = rest ∧ ∃ r, round s = .ok (none, r)) ∨
      ∃ x r more, round s = .ok (some x, r) ∧ rounds round n r = .ok (more, rest) ∧ x :: more = xs := by
  simp only [rounds, bind_eq_ok, Prod.exists, Option.exists, pure_eq_ok, Prod.mk.injEq]
  grind

theorem rounds_of_none (h : round s = .ok (none, s)) (n : Nat) : rounds round n s = .ok ([], s) := by
  cases n with
  | zero => rfl
  | succ n => exact rounds_succ_iff.mpr (.inl ⟨rfl, rfl, s, h⟩)

/-- Members are read back from their text, if each is read in front of the text of those behind
    it and none is read behind the last. -/
theorem rounds_written (text : List α → List Char) (hend : round (text []) = .ok (none, text [])) {xs : List α}
    (hround : ∀ x more, x :: more <:+ xs → round (text (x :: more)) = .ok (some x, text more))
    (hn : xs.length ≤ n) : rounds round n (text xs) = .ok (xs, text []) := by
  induction xs generalizing n with
  | nil => exact rounds_of_none hend n
  | cons x xs ih =>
    obtain ⟨n, rfl⟩ : ∃ k, n = k + 1 := ⟨n - 1, by simp only [List.length_cons] at hn; omega⟩
    have hmore := ih (fun y more h => hround y more (h.trans (List.suffix_cons x xs)))
      (Nat.le_of_succ_le_succ hn)
    exact rounds_succ_iff.mpr (.inr ⟨x, _, xs, hround x xs (List.suffix_refl _), hmore, rfl⟩)

end Rounds

/-! ## The loops of the grammar -/

section Loops

variable {expr operand part : Rule Expr} {operators : List Operator}
  {opening : List Char → Option (List Char)} {s rest : List Char} {x : Expr}

/-- A mark with the part behind it. -/
def markedPart (opening : List Char → Option (List Char)) (part : Rule Expr) : Rule Expr := fun s =>
  match opening s with
  | none => .ok (none, s)
  | some rest => do
    match ← part rest with
    | (none, _) => return (none, s)
    | (some e, rest) => return (some e, rest)

theorem markedPart_stays : Stays (markedPart opening part) := by
  intro s r h
  unfold markedPart at h
  split at h
  · exact rest_of_none h
  · obtain ⟨⟨found, rest⟩, -, h⟩ := bind_eq_ok.mp h
    cases found with
    | none => exact rest_of_none h
    | some e => cases h

theorem markedPart_eq_some_iff :
    markedPart opening part s = .ok (some x, rest) ↔
      ∃ r, opening s = some r ∧ part r = .ok (some x, rest) := by
  unfold markedPart
  cases opening s <;> simp [bind_eq_ok, Prod.exists, Option.exists, pure_eq_ok]

theorem markedPart_eq_none_iff :
    markedPart opening part s = .ok (none, s) ↔ ∀ r, opening s = some r → ∃ r', part r = .ok (none, r') := by
  unfold markedPart
  cases opening s <;> simp [bind_eq_ok, Prod.exists, Option.exists, pure_eq_ok]

theorem parts_eq_rounds (opening : List Char → Option (List Char)) (part : Rule Expr) (n : Nat) (s : List Char) :
    parts opening part n s = rounds (markedPart opening part) n s := by
  induction n generalizing s with
  | zero => rfl
  | succ n ih =>
    simp only [parts, rounds, markedPart]
    cases opening s with
    | none => rfl
    | some rest =>
      dsimp only
      cases part rest with
      | error f => rfl
      | ok found =>
        obtain ⟨_ | e, rest⟩ := found
        · rfl
        · simp only [ok_bind, pure, Except.pure, ih]

theorem parts_of_absent (h : ∀ r, opening s = some r → part r = .ok (none, r)) (n : Nat) :
    parts opening part n s = .ok ([], s) := by
  rw [parts_eq_rounds]
  exact rounds_of_none (markedPart_eq_none_iff.mpr fun r hr => ⟨r, h r hr⟩) n

/-- An operator with its operand. -/
def continuation (operators : List Operator) (operand : Rule Expr) : Rule (Operator × Expr) := fun s =>
  match operator? operators s with
  | none => .ok (none, s)
  | some (op, rest) => do
    match ← operand rest with
    | (none, _) => return (none, s)
    | (some e, rest) => return (some (op, e), rest)

theorem continuation_stays : Stays (continuation operators operand) := by
  intro s r h
  unfold continuation at h
  split at h
  · exact rest_of_none h
  · obtain ⟨⟨found, rest⟩, -, h⟩ := bind_eq_ok.mp h
    cases found with
    | none => exact rest_of_none h
    | some e => cases h

theorem continuation_eq_some_iff {op : Operator} :
    continuation operators operand s = .ok (some (op, x), rest) ↔
      ∃ r, operator? operators s = some (op, r) ∧ operand r = .ok (some x, rest) := by
  unfold continuation
  cases operator? operators s <;>
    simp [bind_eq_ok, Option.exists, Prod.exists, pure_eq_ok]
  grind

theorem continuation_eq_none_iff :
    continuation operators operand s = .ok (none, s) ↔
      ∀ op r, operator? operators s = some (op, r) → ∃ r', operand r = .ok (none, r') := by
  unfold continuation
  cases operator? operators s with
  | none => simp
  | some found =>
    simp [bind_eq_ok, Prod.exists, Option.exists, pure_eq_ok]
    grind

theorem chainTail_eq_rounds (operators : List Operator) (operand : Rule Expr) (n : Nat) (s : List Char) :
    chainTail operators operand n s = rounds (continuation operators operand) n s := by
  induction n generalizing s with
  | zero => rfl
  | succ n ih =>
    simp only [chainTail, rounds, continuation]
    cases operator? operators s with
    | none => rfl
    | some found =>
      obtain ⟨op, rest⟩ := found
      dsimp only
      cases operand rest with
      | error f => rfl
      | ok found =>
        obtain ⟨_ | e, rest⟩ := found
        · rfl
        · simp only [ok_bind, pure, Except.pure, ih]

theorem chainTail_of_absent (h : ∀ op r, operator? operators s = some (op, r) → operand r = .ok (none, r))
    (n : Nat) : chainTail operators operand n s = .ok ([], s) := by
  rw [chainTail_eq_rounds]
  exact rounds_of_none (continuation_eq_none_iff.mpr fun op r hop => ⟨r, h op r hop⟩) n

/-- A comma with the member behind it. -/
def furtherMember (expr : Rule Expr) : Rule Expr := fun s =>
  match symbol? "," s with
  | none => .ok (none, s)
  | some rest => do
    let (e, rest) ← required expr rest
    return (some e, rest)

theorem furtherMember_stays : Stays (furtherMember expr) := by
  intro s r h
  unfold furtherMember at h
  split at h
  · exact rest_of_none h
  · obtain ⟨_, -, h⟩ := bind_eq_ok.mp h
    cases h

theorem furtherMember_eq_some_iff :
    furtherMember expr s = .ok (some x, rest) ↔
      ∃ r, symbol? "," s = some r ∧ expr r = .ok (some x, rest) := by
  unfold furtherMember
  cases symbol? "," s <;> simp [map_eq_ok, required_eq_ok_iff]

theorem furtherMember_eq_none_iff : furtherMember expr s = .ok (none, s) ↔ symbol? "," s = none := by
  unfold furtherMember
  cases symbol? "," s <;> simp [map_eq_ok]

theorem afterCommas_eq_rounds (expr : Rule Expr) (n : Nat) (s : List Char) :
    afterCommas expr n s = rounds (furtherMember expr) n s := by
  induction n generalizing s with
  | zero => rfl
  | succ n ih =>
    simp only [afterCommas, rounds, furtherMember]
    cases symbol? "," s with
    | none => rfl
    | some rest =>
      dsimp only
      cases required expr rest with
      | error f => rfl
      | ok found => simp only [ok_bind, pure, Except.pure, ih]

end Loops

end TemplateEngine.Grammar
