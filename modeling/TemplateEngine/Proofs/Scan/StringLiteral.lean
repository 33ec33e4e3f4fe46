/-
  TemplateEngine.Proofs.Scan.StringLiteral — quoted strings read back.

  Between its quotes a string needs an escape for its quote, for the backslash and for the
  two ends of a line, and for nothing else.
-/

import TemplateEngine.Proofs.Except
import TemplateEngine.Proofs.List
import TemplateEngine.Proofs.Scan.Word
import TemplateEngine.Scan.StringLiteral

namespace TemplateEngine.Scan

/-- A character as it stands between quotes. -/
def escaped (quote c : Char) : List Char :=
  if c = quote ∨ c = '\\' then ['\\', c]
  else if c = '\n' then ['\\', 'n']
  else if c = '\r' then ['\\', 'r']
  else [c]

/-- A string between quotes. -/
def quoted (quote : Char) (s : String) : List Char :=
  quote :: (s.toList.flatMap (escaped quote) ++ [quote])

theorem escape?_quote {quote : Char} (h : quote = '"' ∨ quote = '\'') (rest : List Char) :
    escape? (quote :: rest) = some (quote, rest) := by
  rcases h with rfl | rfl <;> rfl

/-- One character of a string is read from its escape, or from itself. -/
theorem stringBody_escaped {quote : Char} (h : quote = '"' ∨ quote = '\'') (c : Char)
    (start rest : List Char) (n : Nat) :
    stringBody quote start (n + 1) (escaped quote c ++ rest) =
      (stringBody quote start n rest).map fun p => (c :: p.1, p.2) := by
  have hback : quote ≠ '\\' := by rcases h with rfl | rfl <;> decide
  unfold escaped
  split
  · rename_i hc
    have hread : escape? (c :: rest) = some (c, rest) := by
      rcases hc with rfl | rfl
      · exact escape?_quote h rest
      · rfl
    simp only [List.cons_append, List.nil_append, stringBody, if_neg hback.symm, if_true, hread]
    rfl
  split
  · rename_i hc
    simp only [hc, List.cons_append, List.nil_append, stringBody, if_neg hback.symm, if_true]
    rfl
  split
  · rename_i hc
    simp only [hc, List.cons_append, List.nil_append, stringBody, if_neg hback.symm, if_true]
    rfl
  · rename_i hq hn hr
    have hq' := not_or.mp hq
    simp only [List.cons_append, List.nil_append, stringBody, if_neg hq'.1, if_neg hq'.2,
      if_neg (not_or.mpr ⟨hr, hn⟩)]
    rfl

theorem stringBody_quoted {quote : Char} (h : quote = '"' ∨ quote = '\'') (cs start rest : List Char)
    {n : Nat} (hn : cs.length < n) :
    stringBody quote start n (cs.flatMap (escaped quote) ++ quote :: rest) = .ok (cs, rest) := by
  induction cs generalizing n with
  | nil =>
    obtain ⟨m, rfl⟩ := Nat.exists_eq_add_of_lt hn
    simp [stringBody]
  | cons c cs ih =>
    cases n with
    | zero => exact absurd hn (Nat.not_lt_zero _)
    | succ n =>
      rw [List.flatMap_cons, List.append_assoc, stringBody_escaped h, ih (Nat.lt_of_succ_lt_succ hn)]
      rfl

theorem length_escaped_pos (quote c : Char) : 0 < (escaped quote c).length := by
  unfold escaped
  repeat' split
  all_goals exact Nat.zero_lt_succ _

theorem string?_quoted {quote : Char} (h : quote = '"' ∨ quote = '\'') (s : String) (rest : List Char) :
    string? (quoted quote s ++ rest) = .ok (some s, rest) := by
  have hlen := length_le_length_flatMap s.toList (length_escaped_pos quote)
  have hbody := stringBody_quoted h s.toList (quoted quote s ++ rest) rest
    (n := (s.toList.flatMap (escaped quote) ++ quote :: rest).length + 1)
    (by rw [List.length_append]; omega)
  simp only [quoted, List.cons_append, List.append_assoc, List.nil_append] at hbody ⊢
  simp only [string?, if_pos h, hbody, Except.bind, bind, String.ofList_toList]
  rfl

theorem string?_of_stops {s : List Char} (hdouble : Stops (· == '"') s) (hsingle : Stops (· == '\'') s) :
    string? s = .ok (none, s) := by
  unfold string?
  split
  · rfl
  · rename_i c t
    have hne : ¬ (c = '"' ∨ c = '\'') := by
      rintro (rfl | rfl)
      · exact absurd (hdouble '"' rfl) (by decide)
      · exact absurd (hsingle '\'' rfl) (by decide)
    rw [if_neg hne]

/-- Where no string starts the scanner stays in place. -/
theorem string?_stays {s r : List Char} (h : string? s = .ok (none, r)) : r = s := by
  unfold string? at h
  split at h
  · exact (Prod.mk.inj (Except.ok.inj h)).2.symm
  · split at h
    · obtain ⟨found, -, h⟩ := Except.bind_eq_ok.mp h
      cases h
    · exact (Prod.mk.inj (Except.ok.inj h)).2.symm

end TemplateEngine.Scan
