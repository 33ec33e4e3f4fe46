/-
  TemplateEngine.Proofs.Scan.Skipping — from which place to which spacing is skipped.

  What is skipped from a place of a source is spacing, and it is all of it: where the skipping
  stops neither a blank nor a closed comment starts. A text is parted in this way at one place
  only, because a blank or a comment at the front of spacing is at the front of the text, where
  skipping takes it too.

  Proved:
  - `unspaced_iff`: where spacing cannot go on, said of the text alone.
  - `skipSpacingFrom_append`: skipping stops behind spacing that nothing carries on.
  - `skips_maximally`: skipping from any place of any source.
-/

import TemplateEngine.Proofs.Scan.Spacing
import TemplateEngine.Proofs.Text.Boundary

namespace TemplateEngine.Scan

/-- Where skipping spacing from a place of the source arrives. -/
def skipSpacingFrom (source : List Char) (start : Nat) : Nat :=
  Text.utf8Size source - Text.utf8Size (skipSpacing (Text.afterByte start source))

/-- No blank starts here, and no comment that is closed anywhere behind its opening mark. -/
def NoSpacing (s : List Char) : Prop :=
  (∀ c ∈ s.head?, isSpace c = false) ∧
    ∀ body rest, s ≠ '\x7b' :: '#' :: (body ++ '#' :: '\x7d' :: rest)

/-- From `start` to `stop` there is spacing, and behind that there is none. -/
def Skips (source : List Char) (start stop : Nat) : Prop :=
  ∃ front skipped rest, source = front ++ (skipped ++ rest) ∧ Text.utf8Size front = start ∧
    Text.utf8Size (front ++ skipped) = stop ∧ Spacing skipped ∧ NoSpacing rest

theorem exists_afterCommentEnd (body rest : List Char) :
    ∃ r, afterCommentEnd (body ++ '#' :: '\x7d' :: rest) = some r := by
  induction body with
  | nil => exact ⟨rest, rfl⟩
  | cons c body ih =>
    obtain ⟨r, hr⟩ := ih
    rw [List.cons_append]
    unfold afterCommentEnd
    split
    · exact ⟨_, rfl⟩
    · rename_i hcons
      obtain ⟨-, rfl⟩ := List.cons.inj hcons
      exact ⟨r, hr⟩
    · rename_i hcons
      cases hcons

theorem unspaced_iff {s : List Char} : Unspaced s ↔ NoSpacing s := by
  constructor
  · intro h
    refine ⟨h.notSpace, ?_⟩
    rintro body rest rfl
    obtain ⟨r, hr⟩ := exists_afterCommentEnd body rest
    cases h.notComment.symm.trans hr
  · rintro ⟨hspace, hcomment⟩
    refine ⟨hspace, Option.eq_none_iff_forall_ne_some.mpr fun rest hrest => ?_⟩
    obtain ⟨body, -, hs⟩ := comment?_eq_some_iff.mp hrest
    exact hcomment body rest hs

/-- A comment that nothing closes is no spacing. -/
theorem noSpacing_unclosed {body : List Char} (h : ¬ "#\x7d".toList <:+: body) :
    NoSpacing ('\x7b' :: '#' :: body) := by
  refine ⟨fun c hc => Option.some.inj hc ▸ rfl, ?_⟩
  intro inside rest hs
  have hbody : body = inside ++ '#' :: '\x7d' :: rest := (List.cons.inj (List.cons.inj hs).2).2
  exact h ⟨inside, rest, by simp [hbody]⟩

theorem skipSpacingFrom_append (front : List Char) {w rest : List Char} (hw : Spacing w) (hrest : NoSpacing rest) :
    skipSpacingFrom (front ++ (w ++ rest)) (Text.utf8Size front) = Text.utf8Size (front ++ w) := by
  rw [skipSpacingFrom, Text.afterByte_append, skipSpacing_append hw,
    skipSpacing_of_unspaced (unspaced_iff.mpr hrest), ← List.append_assoc, Text.utf8Size_append (front ++ w)]
  exact Nat.add_sub_cancel ..

theorem Skips.eq {source : List Char} {start stop : Nat} (h : Skips source start stop) :
    stop = skipSpacingFrom source start := by
  obtain ⟨front, w, rest, rfl, rfl, rfl, hw, hrest⟩ := h
  exact (skipSpacingFrom_append front hw hrest).symm

/-- Skipping from a place of a source: how many comments are skipped is never what stops it; it
    arrives at a place that is not in front of where it started, behind spacing and in front of
    none, and at no other place is that so; skipping once more arrives there too; and it stops in
    front of a comment that nothing closes. -/
theorem skips_maximally {source : List Char} {start : Nat} (h : Text.IsBoundary source start) :
    (∀ n, (Text.afterByte start source).length ≤ n →
      skipSpacingUpTo n (Text.afterByte start source) = skipSpacing (Text.afterByte start source)) ∧
    start ≤ skipSpacingFrom source start ∧ Text.IsBoundary source (skipSpacingFrom source start) ∧
    (∀ stop, Skips source start stop ↔ stop = skipSpacingFrom source start) ∧
    skipSpacingFrom source (skipSpacingFrom source start) = skipSpacingFrom source start ∧
    ∀ front w body, source = front ++ (w ++ '\x7b' :: '#' :: body) → Text.utf8Size front = start → Spacing w →
      ¬ "#\x7d".toList <:+: body → skipSpacingFrom source start = Text.utf8Size (front ++ w) := by
  obtain ⟨front, s, rfl, rfl⟩ := h
  obtain ⟨hstop, w, hw, hs⟩ := spacing_skipSpacing s
  have hrest : NoSpacing (skipSpacing s) := unspaced_iff.mp hstop
  have harrive : skipSpacingFrom (front ++ s) (Text.utf8Size front) = Text.utf8Size (front ++ w) := by
    rw [hs]
    exact skipSpacingFrom_append front hw hrest
  have hskips : Skips (front ++ s) (Text.utf8Size front) (Text.utf8Size (front ++ w)) :=
    ⟨front, w, skipSpacing s, by rw [← hs], rfl, rfl, hw, hrest⟩
  have hparted : front ++ s = (front ++ w) ++ skipSpacing s := by rw [List.append_assoc, ← hs]
  refine ⟨fun n hn => ?_, ?_, ?_, fun stop => ⟨Skips.eq, ?_⟩, ?_, ?_⟩
  · exact skipSpacingUpTo_congr hn (Nat.le_refl _)
  · rw [harrive, Text.utf8Size_append]
    exact Nat.le_add_right ..
  · rw [harrive, hparted]
    exact Text.isBoundary_append ..
  · rintro rfl
    rw [harrive]
    exact hskips
  · rw [harrive, hparted]
    have hagain := skipSpacingFrom_append (front ++ w) Spacing.nil hrest
    rwa [List.append_nil] at hagain
  · intro front' w' body hsource hstart hw' hbody
    have hunclosed : Skips (front ++ s) (Text.utf8Size front) (Text.utf8Size (front' ++ w')) :=
      ⟨front', w', _, hsource, hstart, rfl, hw', noSpacing_unclosed hbody⟩
    exact hunclosed.eq.symm

/-- The mark that opens a comment does not close it, and what stands behind the comment is one
    that nothing closes. -/
theorem skips_overlapping_marks :
    let spacing : List Char := [' ', '\x7b', '#', '\x7d', '#', '\x7d']
    let source : List Char := 'a' :: spacing ++ ['\x7b', '#', ' ', '\x7d']
    Text.IsBoundary source 1 ∧ Spacing spacing ∧ ¬ "#\x7d".toList <:+: [' ', '\x7d'] ∧ Skips source 1 7 ∧
      skipSpacingFrom source 1 = 7 ∧ skipSpacingFrom source 7 = 7 := by
  intro spacing source
  have hstart : Text.IsBoundary source 1 := ⟨['a'], _, rfl, rfl⟩
  have hcomment : Spacing spacing.tail := @Spacing.comment ['\x7d'] [] (by decide) .nil
  have hspacing : Spacing spacing := .blank rfl hcomment
  have hunclosed : ¬ "#\x7d".toList <:+: [' ', '\x7d'] := by decide
  obtain ⟨-, -, -, hunique, hagain, hstops⟩ := skips_maximally hstart
  have harrive : skipSpacingFrom source 1 = 7 := hstops ['a'] spacing [' ', '\x7d'] rfl rfl hspacing hunclosed
  exact ⟨hstart, hspacing, hunclosed, (hunique 7).mpr harrive.symm, harrive, harrive ▸ hagain⟩

end TemplateEngine.Scan
