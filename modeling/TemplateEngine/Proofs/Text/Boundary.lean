/-
  TemplateEngine.Proofs.Text.Boundary — the bytes at which the characters of a text start.

  A place in a text is counted in bytes, and reading goes on from a place where a character
  starts or the text ends (`IsBoundary`). Any other count of bytes stands for the last such
  place before it.

  Proved:
  - `before_and_after_boundary`: a boundary parts the text, and in one way only.
  - `isGreatest_beforeByte`: the whole characters in front of a byte reach up to the last
    boundary that does not lie behind it.
-/

import Mathlib.Order.Bounds.Basic
import TemplateEngine.Proofs.Position

namespace TemplateEngine.Text

/-- A character of the text starts at this byte, or the text ends there. -/
def IsBoundary (source : List Char) (offset : Nat) : Prop :=
  ∃ front rest, source = front ++ rest ∧ utf8Size front = offset

theorem isBoundary_append (front rest : List Char) : IsBoundary (front ++ rest) (utf8Size front) :=
  ⟨front, rest, rfl, rfl⟩

/-- A character takes at least a byte. -/
theorem length_le_utf8Size (s : List Char) : s.length ≤ utf8Size s := by
  induction s with
  | nil => exact Nat.le_refl 0
  | cons c s ih =>
    have := c.utf8Size_pos
    simp only [List.length_cons, utf8Size]
    omega

theorem afterByte_append (front rest : List Char) : afterByte (utf8Size front) (front ++ rest) = rest := by
  have h := beforeByte_append_afterByte (utf8Size front) (front ++ rest)
  rw [beforeByte_append] at h
  exact List.append_cancel_left h

/-- What stands before and behind a boundary is known from the boundary. -/
theorem before_and_after_boundary {front rest source : List Char} (h : source = front ++ rest) :
    beforeByte (utf8Size front) source = front ∧ afterByte (utf8Size front) source = rest := by
  rw [h]
  exact ⟨beforeByte_append front rest, afterByte_append front rest⟩

theorem beforeByte_isPrefix {n m : Nat} (h : n ≤ m) (cs : List Char) : beforeByte n cs <+: beforeByte m cs := by
  induction cs generalizing n m with
  | nil => exact List.prefix_refl _
  | cons c cs ih =>
    simp only [beforeByte]
    by_cases hn : c.utf8Size ≤ n
    · rw [if_pos hn, if_pos (Nat.le_trans hn h), List.prefix_cons_inj]
      exact ih (by omega)
    · rw [if_neg hn]
      exact List.nil_prefix

/-- The whole characters in front of a byte end at the last boundary that is not behind it. -/
theorem isGreatest_beforeByte (source : List Char) (offset : Nat) :
    IsGreatest {b | IsBoundary source b ∧ b ≤ offset} (utf8Size (beforeByte offset source)) := by
  refine ⟨⟨⟨_, _, (beforeByte_append_afterByte offset source).symm, rfl⟩, utf8Size_beforeByte_le offset source⟩, ?_⟩
  rintro _ ⟨⟨front, rest, hsource, rfl⟩, hle⟩
  obtain ⟨hfront, -⟩ := before_and_after_boundary hsource
  obtain ⟨piece, hpiece⟩ := beforeByte_isPrefix hle source
  rw [← hpiece, hfront, utf8Size_append]
  exact Nat.le_add_right ..

theorem beforeByte_eq_iff (source : List Char) (n m : Nat) :
    beforeByte n source = beforeByte m source ↔
      ∃ b, IsGreatest {b | IsBoundary source b ∧ b ≤ n} b ∧ IsGreatest {b | IsBoundary source b ∧ b ≤ m} b := by
  have hn := isGreatest_beforeByte source n
  have hm := isGreatest_beforeByte source m
  constructor
  · intro h
    exact ⟨_, hn, h ▸ hm⟩
  · rintro ⟨b, hbn, hbm⟩
    have hsize : utf8Size (beforeByte n source) = utf8Size (beforeByte m source) :=
      (hn.unique hbn).trans (hbm.unique hm)
    obtain ⟨hfront, -⟩ := before_and_after_boundary (beforeByte_append_afterByte n source).symm
    obtain ⟨hfront', -⟩ := before_and_after_boundary (beforeByte_append_afterByte m source).symm
    rw [← hfront, hsize, hfront']

end TemplateEngine.Text
