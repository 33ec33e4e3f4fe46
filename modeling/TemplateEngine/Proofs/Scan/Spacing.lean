/-
  TemplateEngine.Proofs.Scan.Spacing — where skipping spacing stops.

  Each comment skipped takes characters away, so the bound on their number is never what
  stops the scan (`skipSpacingUpTo_congr`): it stops where neither a blank nor a comment
  starts (`Unspaced`).

  Proved:
  - `comment?_eq_some_iff`: a comment ends with the first mark that closes one.
  - `skipSpacing_append`: blanks and comments are skipped, whatever follows them.
  - `spacing_skipSpacing`: nothing else is skipped.
-/

import Mathlib.Data.List.Infix
import TemplateEngine.Scan.Spacing

namespace TemplateEngine.Scan

/-- Neither a blank nor a closed comment starts here. -/
structure Unspaced (s : List Char) : Prop where
  notSpace : ∀ c ∈ s.head?, isSpace c = false
  notComment : comment? s = none

theorem comment?_of_ne {c : Char} (h : c ≠ '\x7b') (s : List Char) : comment? (c :: s) = none := by
  unfold comment?
  split
  · rename_i heq
    exact absurd (List.cons.inj heq).1 h
  · rfl

theorem Unspaced.nil : Unspaced [] := ⟨nofun, rfl⟩

theorem Unspaced.cons {c : Char} (s : List Char) (hs : isSpace c = false) (hc : c ≠ '\x7b') :
    Unspaced (c :: s) where
  notSpace := fun _ h => Option.some.inj h ▸ hs
  notComment := comment?_of_ne hc s

theorem dropWhile_unspaced {s : List Char} (h : Unspaced s) : s.dropWhile isSpace = s := by
  cases s with
  | nil => rfl
  | cons c s => rw [List.dropWhile_cons, h.notSpace c rfl]; rfl

theorem skipSpacing_of_unspaced {s : List Char} (h : Unspaced s) : skipSpacing s = s := by
  unfold skipSpacing
  cases s.length with
  | zero => exact dropWhile_unspaced h
  | succ n => rw [skipSpacingUpTo, dropWhile_unspaced h, h.notComment]

theorem skipSpacingUpTo_congr {s : List Char} {n m : Nat} (hn : s.length ≤ n) (hm : s.length ≤ m) :
    skipSpacingUpTo n s = skipSpacingUpTo m s := by
  induction n generalizing s m with
  | zero =>
    obtain rfl := List.length_eq_zero_iff.mp (Nat.le_zero.mp hn)
    cases m <;> rfl
  | succ n ih =>
    cases m with
    | zero =>
      obtain rfl := List.length_eq_zero_iff.mp (Nat.le_zero.mp hm)
      rfl
    | succ m =>
      rw [skipSpacingUpTo, skipSpacingUpTo]
      cases h : comment? (s.dropWhile isSpace) with
      | none => rfl
      | some rest =>
        have hlen := comment?_length h
        have hdrop := (List.dropWhile_sublist isSpace (l := s)).length_le
        exact ih (by omega) (by omega)

theorem skipSpacing_space {c : Char} (h : isSpace c = true) (s : List Char) :
    skipSpacing (c :: s) = skipSpacing s := by
  have hdrop : (c :: s).dropWhile isSpace = s.dropWhile isSpace := by
    rw [List.dropWhile_cons, h]; rfl
  calc skipSpacing (c :: s)
    _ = skipSpacingUpTo (s.length + 1) s := by
      rw [skipSpacing, List.length_cons, skipSpacingUpTo, skipSpacingUpTo, hdrop]
    _ = skipSpacing s := skipSpacingUpTo_congr (Nat.le_succ _) (Nat.le_refl _)

theorem comment?_head {s rest : List Char} (h : comment? s = some rest) : ∃ body, s = '\x7b' :: '#' :: body := by
  unfold comment? at h
  split at h
  · exact ⟨_, rfl⟩
  · cases h

theorem skipSpacing_comment {s rest : List Char} (h : comment? s = some rest) :
    skipSpacing s = skipSpacing rest := by
  have hlen := comment?_length h
  have hdrop : s.dropWhile isSpace = s := by
    obtain ⟨body, rfl⟩ := comment?_head h
    rfl
  obtain ⟨n, hn⟩ : ∃ n, s.length = n + 1 := ⟨s.length - 1, by omega⟩
  calc skipSpacing s
    _ = skipSpacingUpTo n rest := by rw [skipSpacing, hn, skipSpacingUpTo, hdrop, h]
    _ = skipSpacing rest := skipSpacingUpTo_congr (by omega) (Nat.le_refl _)

/-! ## Comments -/

theorem afterCommentEnd_append {body : List Char} (h : ¬ "#\x7d".toList <:+: body) (rest : List Char) :
    afterCommentEnd (body ++ '#' :: '\x7d' :: rest) = some rest := by
  induction body with
  | nil => rfl
  | cons c cs ih =>
    have htail := ih fun hin => h (List.infix_cons hin)
    have hskip : afterCommentEnd (c :: (cs ++ '#' :: '\x7d' :: rest)) =
        afterCommentEnd (cs ++ '#' :: '\x7d' :: rest) := by
      rw [afterCommentEnd]
      rintro s rfl hs
      cases cs with
      | nil => cases hs
      | cons d cs =>
        cases hs
        exact h ⟨[], cs, rfl⟩
    rw [List.cons_append, hskip, htail]

theorem comment?_append {body : List Char} (h : ¬ "#\x7d".toList <:+: body) (rest : List Char) :
    comment? ('\x7b' :: '#' :: (body ++ '#' :: '\x7d' :: rest)) = some rest :=
  afterCommentEnd_append h rest

theorem afterCommentEnd_eq_some_iff {s rest : List Char} :
    afterCommentEnd s = some rest ↔
      ∃ body, ¬ "#\x7d".toList <:+: body ∧ s = body ++ '#' :: '\x7d' :: rest := by
  constructor
  · intro h
    fun_induction afterCommentEnd s with
    | case1 r => exact ⟨[], by decide, by rw [Option.some.inj h]; rfl⟩
    | case2 c cs hc ih =>
      obtain ⟨body, hbody, rfl⟩ := ih h
      refine ⟨c :: body, fun hin => ?_, rfl⟩
      rcases List.infix_cons_iff.mp hin with hprefix | hin
      · -- the mark would stand at `c`, where it was not found
        obtain ⟨t, ht⟩ := hprefix
        have ht : '#' :: '\x7d' :: t = c :: body := ht
        obtain ⟨rfl, rfl⟩ := List.cons.inj ht
        exact hc (t ++ '#' :: '\x7d' :: rest) rfl rfl
      · exact hbody hin
    | case3 => cases h
  · rintro ⟨body, hbody, rfl⟩
    exact afterCommentEnd_append hbody rest

theorem comment?_eq_some_iff {s rest : List Char} :
    comment? s = some rest ↔
      ∃ body, ¬ "#\x7d".toList <:+: body ∧ s = '\x7b' :: '#' :: (body ++ '#' :: '\x7d' :: rest) := by
  constructor
  · intro h
    obtain ⟨body, rfl⟩ := comment?_head h
    obtain ⟨inside, hinside, rfl⟩ := afterCommentEnd_eq_some_iff.mp h
    exact ⟨inside, hinside, rfl⟩
  · rintro ⟨body, hbody, rfl⟩
    exact comment?_append hbody rest

/-! ## Runs of blanks and comments -/

/-- Blanks and closed comments, in any order. -/
inductive Spacing : List Char → Prop
  | nil : Spacing []
  | blank {c : Char} {w : List Char} : isSpace c = true → Spacing w → Spacing (c :: w)
  | comment {body w : List Char} : ¬ "#\x7d".toList <:+: body → Spacing w →
      Spacing ('\x7b' :: '#' :: (body ++ '#' :: '\x7d' :: w))

theorem skipSpacing_append {w : List Char} (h : Spacing w) (s : List Char) :
    skipSpacing (w ++ s) = skipSpacing s := by
  induction h with
  | nil => rfl
  | blank hc _ ih => rw [List.cons_append, skipSpacing_space hc, ih]
  | @comment body w hbody _ ih =>
    have hread : comment? (('\x7b' :: '#' :: (body ++ '#' :: '\x7d' :: w)) ++ s) = some (w ++ s) := by
      simpa using comment?_append hbody (w ++ s)
    rw [skipSpacing_comment hread, ih]

/-- What is skipped is spacing, and none is left. -/
theorem spacing_skipSpacing (s : List Char) :
    Unspaced (skipSpacing s) ∧ ∃ w, Spacing w ∧ s = w ++ skipSpacing s := by
  induction hlen : s.length using Nat.strong_induction_on generalizing s with
  | _ n ih =>
    cases hcomment : comment? s with
    | some rest =>
      have hshort := comment?_length hcomment
      obtain ⟨hstop, w, hw, hrest⟩ := ih rest.length (by omega) rest rfl
      obtain ⟨body, hbody, hs⟩ := comment?_eq_some_iff.mp hcomment
      rw [skipSpacing_comment hcomment]
      refine ⟨hstop, _, .comment hbody hw, ?_⟩
      rw [hs]
      simpa using hrest
    | none =>
      by_cases hspace : ∃ c t, s = c :: t ∧ isSpace c = true
      · obtain ⟨c, t, rfl, hc⟩ := hspace
        obtain ⟨hstop, w, hw, ht⟩ := ih t.length (by rw [← hlen]; exact Nat.lt_succ_self _) t rfl
        rw [skipSpacing_space hc]
        exact ⟨hstop, c :: w, .blank hc hw, congrArg (c :: ·) ht⟩
      · have hstop : Unspaced s := by
          refine ⟨fun c hc => Bool.eq_false_iff.mpr fun hc' => hspace ?_, hcomment⟩
          obtain ⟨t, rfl⟩ := List.head?_eq_some_iff.mp hc
          exact ⟨c, t, rfl, hc'⟩
        rw [skipSpacing_of_unspaced hstop]
        exact ⟨hstop, [], .nil, rfl⟩

theorem unspaced_skipSpacing (s : List Char) : Unspaced (skipSpacing s) := (spacing_skipSpacing s).1

end TemplateEngine.Scan
