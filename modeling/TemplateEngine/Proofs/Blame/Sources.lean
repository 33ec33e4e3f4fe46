/-
  TemplateEngine.Proofs.Blame.Sources — the places that parse errors point to.

  A fault within the source becomes an error at the place in front of what the fault names:
  a place of a character, with its line and column. What an error shows of the source is the
  text up to that place, and for a stray line behind a parent's name the start of that line.

  Proved:
  - `firstLine_spec`, `FirstLine.eq`: which text the line of an error has.
  - `document_blames`: whatever makes the reading of a source fail lies within the source.
  - `points_of_parse_error`: where an error points, and what it shows, for templates and
    for expressions.
-/

import TemplateEngine.Proofs.Blame.Statements

namespace TemplateEngine

namespace Grammar

open Scan TemplateEngine.Except

/-! ## Documents -/

/-- The text up to the end of its first line: before a line feed, or before a carriage return
    in front of that, or up to the end of the text. -/
inductive FirstLine (line : List Char) : List Char → Prop
  | lineFeed (more : List Char) : '\n' ∉ line → line.getLast? ≠ some '\r' →
      FirstLine line (line ++ '\n' :: more)
  | carriageReturn (more : List Char) : '\n' ∉ line → FirstLine line (line ++ '\r' :: '\n' :: more)
  | last : '\n' ∉ line → FirstLine line line

namespace FirstLine

variable {line s : List Char}

theorem isPrefix (h : FirstLine line s) : line <+: s := by
  cases h with
  | lineFeed | carriageReturn => exact List.prefix_append ..
  | last => exact List.prefix_refl line

theorem newline_notMem (h : FirstLine line s) : '\n' ∉ line := by
  cases h with
  | lineFeed _ hline | carriageReturn _ hline | last hline => exact hline

end FirstLine

theorem firstLine_spec (s : List Char) : FirstLine (firstLine s) s := by
  have hsplit := List.takeWhile_append_dropWhile (p := (· != '\n')) (l := s)
  have hstop : Stops (· != '\n') (s.dropWhile (· != '\n')) := stops_dropWhile
  have hline : '\n' ∉ s.takeWhile (· != '\n') := by
    intro hmem
    simpa using List.all_eq_true.mp List.all_takeWhile _ hmem
  unfold firstLine
  generalize s.takeWhile (· != '\n') = line at hsplit hline
  generalize s.dropWhile (· != '\n') = rest at hsplit hstop
  subst hsplit
  cases rest with
  | nil => simpa using FirstLine.last hline
  | cons c more =>
    obtain rfl : c = '\n' := by simpa using hstop c rfl
    by_cases hreturn : line.getLast? = some '\r'
    · obtain ⟨front, rfl⟩ := List.getLast?_eq_some_iff.mp hreturn
      have hfront : '\n' ∉ front := fun hmem => hline (List.mem_append_left _ hmem)
      simpa using FirstLine.carriageReturn more hfront
    · simpa [hreturn] using FirstLine.lineFeed more hline hreturn

theorem FirstLine.eq {line s : List Char} (h : FirstLine line s) : firstLine s = line := by
  have hrun : ∀ {line rest : List Char}, '\n' ∉ line → Stops (· != '\n') rest →
      (line ++ rest).takeWhile (· != '\n') = line :=
    fun hline hrest => takeWhile_run (fun c hc => bne_iff_ne.mpr fun h => hline (h ▸ hc)) hrest
  have hend : ∀ more, Stops (· != '\n') ('\n' :: more) := fun _ => .cons rfl
  cases h with
  | lineFeed more hline hreturn =>
    have hread := hrun hline (hend more)
    simp [firstLine, hread, hreturn]
  | carriageReturn more hline =>
    have hline' : '\n' ∉ line ++ ['\r'] := by simp [hline]
    have hread := hrun hline' (hend more)
    rw [List.append_assoc, List.singleton_append] at hread
    simp [firstLine, hread]
  | last hline =>
    have hread := hrun hline Stops.nil
    rw [List.append_nil] at hread
    simp [firstLine, hread]

theorem onlyBlocks_blames {α : Type} (s : List Char) : Blames s (.error (onlyBlocks s) : Except Fault α) := by
  intro f hf
  obtain rfl := Except.error.inj hf
  have hline := firstLine_spec s
  have hquoted : (firstLine s).take 40 <+: firstLine s := List.take_prefix 40 _
  exact ⟨List.suffix_refl s, fun hkind => absurd rfl hkind, hquoted.trans hline.isPrefix,
    List.length_take_le 40 _, fun hmem => hline.newline_notMem (hquoted.subset hmem)⟩

theorem overrides_blames (source : List Char) (n : Nat) :
    ∀ names s, Blames s (overrides source n names s) := by
  induction n with
  | zero => exact fun _ _ => .ok _
  | succ n ih =>
    intro names s
    have hskipped := skipSpacing_isSuffix s
    have hy : ∀ names s read, content source names s = .ok read → read.rest <:+ s :=
      fun _ _ _ h => contentUpTo_isSuffix h
    have h : ∀ names s, Blames s (content source names s) := fun names s => contentUpTo_blames source _ [] names s
    unfold overrides
    dsimp only
    split
    · exact .ok _
    split
    · refine .bind ((block_blames source hy h names _).mono hskipped) fun first hfirst => ?_
      have hrest := (block_places (content_places source) _ _ _ hfirst).isSuffix.trans hskipped
      exact .bind ((ih _ _).mono hrest) fun _ _ => .ok _
    · exact (onlyBlocks_blames _).mono hskipped

theorem extending_blames (source s : List Char) : Blames s (extending source s) := by
  refine .bind (openTag_blames "extends" s) fun r hr => ?_
  have hopened : Opened .inheritance s r := opened_of_openTag? (by decide) (openTag_eq_ok_iff.mp hr)
  refine .bind (templateName_blames hopened.isSuffix) fun parent hparent => ?_
  have hbehind := hopened.behind (templateName_isSuffix hparent)
  refine .bind (closeTag_blames hbehind) fun rest hrest => ?_
  have hclosed := hbehind.behind (closeTag_isSuffix hrest)
  exact .bind ((overrides_blames source _ [] rest).mono hclosed.isSuffix) fun _ _ => .ok _

theorem root_blames (source : List Char) : Blames source (root source) := by
  refine .bind (contentUpTo_blames source _ [] [] source) fun read hread => ?_
  split
  · exact .ok _
  · refine (Blames.since (behindMark_isSuffix read.rest) fun _ _ => ?_).mono (contentUpTo_isSuffix hread)
    trivial

theorem document_blames (source : List Char) : Blames source (document source) := by
  simp only [document]
  split
  · exact (extending_blames source _).mono (skipSpacing_isSuffix source)
  · exact root_blames source

end Grammar

/-! ## Errors -/

namespace Fault

/-- A fault within the source points to the place in front of what it names. -/
theorem Within.points {source : List Char} {f : Fault} (h : f.Within source) :
    ∃ front, source = front ++ f.rest ∧ (f.toParseError source).position = Position.after front ∧
      (f.kind ≠ .extendMayOnlyBlocks → f.quoted <:+ front) := by
  obtain ⟨front, hfront⟩ := h.place
  refine ⟨front, hfront.symm, ?_, fun hkind => ?_⟩
  · show Position.before source f.rest = _
    rw [← hfront, Position.before_append]
  · obtain ⟨ahead, hahead⟩ := h.quoted hkind
    have hfront' : ahead ++ f.quoted ++ f.rest = front ++ f.rest := by
      rw [List.append_assoc, hahead, hfront]
    exact ⟨ahead, List.append_cancel_right hfront'⟩

end Fault

open TemplateEngine.Except Grammar in
theorem Document.within_of_parse {source : String} {e : ParseError} (h : Document.parse source = .error e) :
    ∃ f : Fault, f.Within source.toList ∧ f.toParseError source.toList = e := by
  obtain ⟨f, hf, he⟩ := mapError_eq_error.mp h
  exact ⟨f, document_blames source.toList f hf, he⟩

open TemplateEngine.Except Grammar Scan in
theorem Expr.within_of_parse {source : String} {e : ParseError} (h : Expr.parse source = .error e) :
    ∃ f : Fault, f.Within source.toList ∧ f.toParseError source.toList = e := by
  obtain ⟨f, hf, he⟩ := mapError_eq_error.mp h
  have hskipped := skipSpacing_isSuffix source.toList
  refine ⟨f, (Blames.bind (requiredExpression_blames _) fun found hfound => ?_).mono hskipped f hf, he⟩
  dsimp only
  split
  · exact .ok _
  · exact .since (required_isSuffix hfound) fun _ _ => trivial

/-- An error points to a character of the source, or its end, with the line and column of
    that place. What it shows ends there; only of a line that should have been a block it
    shows the start. A tag or directive that is left open is shown from its mark and word on,
    and a block's name that is there already stands where the error points to. -/
theorem points_of_parse_error {source : String} {e : ParseError}
    (h : Document.parse source = .error e ∨ Expr.parse source = .error e) :
    ∃ front rest, source.toList = front ++ rest ∧ e.position.offset = Text.utf8Size front ∧
      e.position.offset ≤ source.utf8ByteSize ∧
      e.position = Position.ofOffset source.toList e.position.offset ∧
      (e.kind ≠ .extendMayOnlyBlocks → e.snippet.toList <:+ front) ∧
      e.kind.Quotes e.snippet.toList rest := by
  obtain ⟨f, hwithin, rfl⟩ : ∃ f : Fault, f.Within source.toList ∧ f.toParseError source.toList = e :=
    h.elim Document.within_of_parse Expr.within_of_parse
  obtain ⟨front, hsource, hposition, hquoted⟩ := hwithin.points
  have hsnippet : (f.toParseError source.toList).snippet.toList = f.quoted := String.toList_ofList
  refine ⟨front, f.rest, hsource, by rw [hposition]; rfl, ?_, ?_, ?_, ?_⟩
  · rw [hposition, ← Text.utf8Size_toList, hsource, Text.utf8Size_append]
    exact Nat.le_add_right ..
  · rw [hposition, hsource]
    exact (Position.ofOffset_append front f.rest).symm
  · rw [hsnippet]
    exact hquoted
  · rw [hsnippet]
    exact hwithin.apt

set_option maxRecDepth 2000 in
/-- A loop that nothing ends, behind a letter of two bytes on the line before, its word behind
    a comment: the error points behind the last letter, and shows the loop from its mark on. -/
theorem points_of_open_loop : ∃ e : ParseError,
    Document.parse "é\n\x7b%\x7b#a#\x7dfor x in y %\x7dü" = .error e ∧
      e.kind = .missingEndClause .loop ∧ e.position = ⟨25, 2, 22⟩ ∧
      e.snippet = "\x7b%\x7b#a#\x7dfor x in y %\x7dü" ∧
      ∃ front rest, "é\n\x7b%\x7b#a#\x7dfor x in y %\x7dü".toList = front ++ rest ∧
        e.position.offset = Text.utf8Size front ∧
        e.position = Position.ofOffset "é\n\x7b%\x7b#a#\x7dfor x in y %\x7dü".toList e.position.offset ∧
        e.snippet.toList <:+ front ∧ Grammar.Opens "for" e.snippet.toList := by
  have hparse : Document.parse "é\n\x7b%\x7b#a#\x7dfor x in y %\x7dü" =
      .error ⟨.missingEndClause .loop, ⟨25, 2, 22⟩, "\x7b%\x7b#a#\x7dfor x in y %\x7dü"⟩ := by rfl
  obtain ⟨front, rest, hsource, hoffset, -, hposition, hquoted, hquotes⟩ := points_of_parse_error (.inl hparse)
  exact ⟨_, hparse, rfl, rfl, rfl, front, rest, hsource, hoffset, hposition, hquoted nofun, hquotes⟩

end TemplateEngine
