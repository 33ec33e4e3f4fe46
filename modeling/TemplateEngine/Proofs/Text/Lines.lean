/-
  TemplateEngine.Proofs.Text.Lines — lines and columns identify the places of a source.

  More of a source read is a place further on: in a later line if there is a line feed in
  what has been read more, and otherwise in the same line and as many columns further as
  there are characters in it. So places in the order of their offsets are in the order of
  their lines and columns, and no two of them share both.

  Proved:
  - `after_append`: the place reached once more has been read.
  - `places_in_order`: lines and columns of any two byte offsets of a source.
-/

import Mathlib.Data.List.Induction
import TemplateEngine.Proofs.Text.Boundary

namespace TemplateEngine.Position

/-- `line` is what stands behind the last line feed. -/
def LastLine (front line : List Char) : Prop :=
  '\n' ∉ line ∧ ∃ lines, front = lines ++ line ∧ (lines = [] ∨ ∃ earlier, lines = earlier ++ ['\n'])

/-- The place is not behind the other one, by their lines and then by their columns. -/
def NotBehind (a b : Position) : Prop := a.line < b.line ∨ a.line = b.line ∧ a.column ≤ b.column

theorem takeWhile_of_lastLine {front line : List Char} (h : LastLine front line) :
    front.reverse.takeWhile (· != '\n') = line.reverse := by
  obtain ⟨hline, lines, rfl, hlines⟩ := h
  have hall : ∀ c ∈ line.reverse, (c != '\n') = true := by
    intro c hc
    have hc : c ∈ line := List.mem_reverse.mp hc
    simp only [bne_iff_ne]
    rintro rfl
    exact hline hc
  rw [List.reverse_append, List.takeWhile_append_of_pos hall]
  rcases hlines with rfl | ⟨earlier, rfl⟩ <;> simp

theorem exists_lastLine (front : List Char) : ∃ line, LastLine front line := by
  induction front using List.reverseRecOn with
  | nil => exact ⟨[], nofun, [], rfl, .inl rfl⟩
  | append_singleton front c ih =>
    obtain ⟨line, hline, lines, rfl, hlines⟩ := ih
    by_cases hc : c = '\n'
    · exact ⟨[], nofun, _, (List.append_nil _).symm, .inr ⟨_, by rw [hc]⟩⟩
    · refine ⟨line ++ [c], ?_, lines, List.append_assoc .., hlines⟩
      simp [hline, Ne.symm hc]

theorem column_after {front line : List Char} (h : LastLine front line) :
    (after front).column = line.length + 1 := by
  simp [after, takeWhile_of_lastLine h]

/-- Further on in the source the line is as many line feeds later; within a line, the column is
    as many characters later. -/
theorem after_append (front piece : List Char) :
    (after (front ++ piece)).line = (after front).line + piece.count '\n' ∧
      ('\n' ∉ piece → (after (front ++ piece)).column = (after front).column + piece.length) := by
  constructor
  · simp only [after, List.count_append]
    omega
  · intro hpiece
    obtain ⟨line, hline⟩ := exists_lastLine front
    have hlonger : LastLine (front ++ piece) (line ++ piece) := by
      obtain ⟨hfeed, lines, rfl, hlines⟩ := hline
      exact ⟨by simp [hfeed, hpiece], lines, List.append_assoc .., hlines⟩
    rw [column_after hline, column_after hlonger, List.length_append]
    omega

theorem notBehind_append (front piece : List Char) : NotBehind (after front) (after (front ++ piece)) := by
  obtain ⟨hline, hcolumn⟩ := after_append front piece
  by_cases hpiece : '\n' ∈ piece
  · have := List.count_pos_iff.mpr hpiece
    exact .inl (by omega)
  · have := List.count_eq_zero.mpr hpiece
    have := hcolumn hpiece
    exact .inr ⟨by omega, by omega⟩

theorem eq_nil_of_same_place {front piece : List Char} (hline : (after front).line = (after (front ++ piece)).line)
    (hcolumn : (after front).column = (after (front ++ piece)).column) : piece = [] := by
  obtain ⟨hmore, hfurther⟩ := after_append front piece
  have hnone : '\n' ∉ piece := List.count_eq_zero.mp (by omega)
  have := hfurther hnone
  exact List.eq_nil_of_length_eq_zero (by omega)

/-- Offsets of one line and column stand for one place. -/
theorem same_place_iff {o₁ o₂ : Nat} (h : o₁ ≤ o₂) (source : List Char) :
    ((ofOffset source o₁).line = (ofOffset source o₂).line ∧
      (ofOffset source o₁).column = (ofOffset source o₂).column) ↔
        Text.beforeByte o₁ source = Text.beforeByte o₂ source := by
  obtain ⟨piece, hpiece⟩ := Text.beforeByte_isPrefix h source
  simp only [ofOffset, ← hpiece]
  constructor
  · rintro ⟨hline, hcolumn⟩
    rw [eq_nil_of_same_place hline hcolumn, List.append_nil]
  · intro hsame
    rw [← hsame]
    exact ⟨rfl, rfl⟩

/-- Each offset stands for the last boundary that is not behind it; the line counts the line
    feeds in front of that, and the column the characters since the last of them. Offsets in
    order have lines and columns in order, and share them just when they stand for one
    boundary; so no two boundaries share them. -/
theorem places_in_order {o₁ o₂ : Nat} (h : o₁ ≤ o₂) (source : List Char) :
    (∀ offset, ∃ front rest line, source = front ++ rest ∧ LastLine front line ∧
      IsGreatest {b | Text.IsBoundary source b ∧ b ≤ offset} (Text.utf8Size front) ∧
        ofOffset source offset = ⟨Text.utf8Size front, front.count '\n' + 1, line.length + 1⟩) ∧
    NotBehind (ofOffset source o₁) (ofOffset source o₂) ∧
    (((ofOffset source o₁).line = (ofOffset source o₂).line ∧
      (ofOffset source o₁).column = (ofOffset source o₂).column) ↔
        ∃ b, IsGreatest {b | Text.IsBoundary source b ∧ b ≤ o₁} b ∧
          IsGreatest {b | Text.IsBoundary source b ∧ b ≤ o₂} b) ∧
    ∀ b₁ b₂, Text.IsBoundary source b₁ → Text.IsBoundary source b₂ →
      (ofOffset source b₁).line = (ofOffset source b₂).line →
        (ofOffset source b₁).column = (ofOffset source b₂).column → b₁ = b₂ := by
  refine ⟨fun offset => ?_, ?_, ?_, ?_⟩
  · obtain ⟨line, hline⟩ := exists_lastLine (Text.beforeByte offset source)
    refine ⟨_, _, line, (Text.beforeByte_append_afterByte offset source).symm, hline,
      Text.isGreatest_beforeByte source offset, ?_⟩
    rw [ofOffset, ← column_after hline]
    rfl
  · obtain ⟨piece, hpiece⟩ := Text.beforeByte_isPrefix h source
    rw [ofOffset, ofOffset, ← hpiece]
    exact notBehind_append ..
  · rw [same_place_iff h, Text.beforeByte_eq_iff]
  · have hordered : ∀ b₁ b₂, b₁ ≤ b₂ → Text.IsBoundary source b₁ → Text.IsBoundary source b₂ →
        (ofOffset source b₁).line = (ofOffset source b₂).line →
          (ofOffset source b₁).column = (ofOffset source b₂).column → b₁ = b₂ := by
      rintro _ _ hle ⟨front₁, rest₁, hsource₁, rfl⟩ ⟨front₂, rest₂, hsource₂, rfl⟩ hline hcolumn
      have hsame := (same_place_iff hle source).mp ⟨hline, hcolumn⟩
      rw [(Text.before_and_after_boundary hsource₁).1, (Text.before_and_after_boundary hsource₂).1] at hsame
      rw [hsame]
    intro b₁ b₂ h₁ h₂ hline hcolumn
    rcases Nat.le_total b₁ b₂ with hle | hle
    · exact hordered b₁ b₂ hle h₁ h₂ hline hcolumn
    · exact (hordered b₂ b₁ hle h₂ h₁ hline.symm hcolumn.symm).symm

/-- Two bytes inside the first character of a line, and the character behind it. -/
theorem places_within_character :
    let source : List Char := ['a', '\n', '€', 'c']
    (∃ b, IsGreatest {b | Text.IsBoundary source b ∧ b ≤ 3} b ∧ IsGreatest {b | Text.IsBoundary source b ∧ b ≤ 4} b) ∧
      Text.IsBoundary source 2 ∧ Text.IsBoundary source 5 ∧
        (ofOffset source 2).line = (ofOffset source 5).line ∧
          (ofOffset source 2).column ≠ (ofOffset source 5).column := by
  intro source
  have hsign : Text.IsBoundary source 2 := ⟨['a', '\n'], ['€', 'c'], rfl, rfl⟩
  have hletter : Text.IsBoundary source 5 := ⟨['a', '\n', '€'], ['c'], rfl, rfl⟩
  have hoffsets : 3 ≤ 4 := by decide
  obtain ⟨-, -, hsame, hdetermined⟩ := places_in_order hoffsets source
  refine ⟨hsame.mp ⟨rfl, rfl⟩, hsign, hletter, rfl, fun hcolumn => ?_⟩
  cases hdetermined 2 5 hsign hletter rfl hcolumn

end TemplateEngine.Position
