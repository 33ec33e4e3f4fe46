/-
  TemplateEngine.Proofs.Document.Segments — sources without directives.

  Such a source is put together from plain text, comments and verbatim statements, in any
  order. Plain text opens nothing: no brace in it has a second one, a percent sign or a
  number sign behind it, neither in the text itself nor where the next segment starts.
  Comments are anything up to their end, and so are the insides of verbatim statements,
  where the spacing of a tag may run into what follows the statement (`Unclosed`).

  Proved:
  - `contentUpTo_segments`: the segments are read as the plain texts and the insides of the
    verbatim statements, joined into one text; comments leave nothing.
  - `tagWord?_segments`: no segment is taken for the tag that names a parent.
  - `segments_reproduced`: the source is that one text, as a document, as a template in any
    environment and as the output of every rendering.
-/

import TemplateEngine.Proofs.Document.Content
import TemplateEngine.Proofs.Rendering.Calls
import TemplateEngine.Template

namespace TemplateEngine

open Scan Grammar TemplateEngine.Except

inductive Segment where
  | plain (text : List Char)
  | comment (body : List Char)
  | verbatim (body : List Char)

/-- The segment in front of `rest`. -/
def Segment.source : Segment → List Char → List Char
  | plain text, rest => text ++ rest
  | comment body, rest => '\x7b' :: '#' :: (body ++ '#' :: '\x7d' :: rest)
  | verbatim body, rest => tag "verbatim" (tagEnd (body ++ tag "endverbatim" (tagEnd rest)))

/-- What the segment stands for. -/
def Segment.text : Segment → List Char
  | plain text => text
  | comment _ => []
  | verbatim body => body

def sourceOf (segments : List Segment) : List Char := segments.foldr Segment.source []

def textOf (segments : List Segment) : List Char := segments.flatMap Segment.text

/-- The segments in front of `rest` are what they are written as. -/
inductive Proper : List Segment → Prop
  | nil : Proper []
  | plain {text : List Char} {rest : List Segment} :
      (∀ mark ∈ ["\x7b\x7b", "\x7b%", "\x7b#"], ¬ mark.toList <:+: text) →
        (text.getLast? = some '\x7b' → rest = []) → Proper rest → Proper (.plain text :: rest)
  | comment {body : List Char} {rest : List Segment} :
      ¬ "#\x7d".toList <:+: body → Proper rest → Proper (.comment body :: rest)
  | verbatim {body : List Char} {rest : List Segment} :
      Unclosed body (sourceOf rest) → Proper rest → Proper (.verbatim body :: rest)

/-! ## Plain text -/

/-- With a brace in front of it, the character opens a tag or a comment. -/
def isMark (c : Char) : Bool := c == '\x7b' || c == '%' || c == '#'

theorem unmarked_brace {s : List Char} (h : Stops isMark s) : Unmarked ('\x7b' :: s) := by
  cases s with
  | nil => exact ⟨rfl, rfl, rfl⟩
  | cons c s =>
    have hc : (c ≠ '\x7b' ∧ c ≠ '%') ∧ c ≠ '#' := by simpa [isMark] using h c rfl
    refine ⟨?_, ?_, ?_⟩
    · simp [mark?, Text.after?, hc.1.1.symm]
    · simp [mark?, Text.after?, hc.1.2.symm]
    · unfold comment?
      split
      · rename_i heq
        exact absurd (List.cons.inj (List.cons.inj heq).2).1 hc.2
      · rfl

/-- Nothing opens inside the text, in front of `rest`. -/
inductive Plain (rest : List Char) : List Char → Prop
  | nil : Plain rest []
  | cons {c : Char} {text : List Char} :
      Unmarked (c :: (text ++ rest)) → Plain rest text → Plain rest (c :: text)

theorem plain_of_markless {text rest : List Char}
    (hmarks : ∀ mark ∈ ["\x7b\x7b", "\x7b%", "\x7b#"], ¬ mark.toList <:+: text)
    (hlast : text.getLast? = some '\x7b' → rest = []) : Plain rest text := by
  induction text with
  | nil => exact .nil
  | cons c cs ih =>
    have htail : Plain rest cs := by
      refine ih (fun mark hmark hin => hmarks mark hmark (List.infix_cons hin)) fun hbrace => hlast ?_
      rw [List.getLast?_cons, hbrace]
      rfl
    refine .cons ?_ htail
    by_cases hc : c = '\x7b'
    · subst hc
      refine unmarked_brace ?_
      cases cs with
      | nil =>
        rw [hlast rfl]
        exact Stops.nil
      | cons d cs =>
        have hd (mark : String) (hmark : mark ∈ ["\x7b\x7b", "\x7b%", "\x7b#"]) : mark.toList ≠ ['\x7b', d] :=
          fun heq => hmarks mark hmark ⟨[], cs, by rw [heq]; rfl⟩
        refine Stops.cons (Bool.eq_false_iff.mpr fun hmark => ?_)
        obtain (rfl | rfl) | rfl : (d = '\x7b' ∨ d = '%') ∨ d = '#' := by simpa [isMark] using hmark
        · exact hd "\x7b\x7b" (by decide) rfl
        · exact hd "\x7b%" (by decide) rfl
        · exact hd "\x7b#" (by decide) rfl
    · exact unmarked_char hc _

variable (source : List Char)

theorem contentUpTo_plain {cs rest : List Char} (h : Plain rest cs) {n : Nat}
    (hn : (cs ++ rest).length ≤ n) (text : List Char) (names : List String) :
    ∃ m, rest.length ≤ m ∧ contentUpTo source n text names (cs ++ rest) =
      contentUpTo source m (cs.reverse ++ text) names rest := by
  induction h generalizing n text with
  | nil => exact ⟨n, hn, rfl⟩
  | @cons c cs hmark _ ih =>
    simp only [List.cons_append, List.length_cons] at hn ⊢
    obtain ⟨k, rfl⟩ : ∃ k, n = k + 1 := ⟨n - 1, by omega⟩
    obtain ⟨m, hm, hread⟩ := ih (n := k) (by omega) (c :: text)
    refine ⟨m, hm, ?_⟩
    rw [contentUpTo_unmarked source hmark, hread, List.reverse_cons, List.append_assoc]
    rfl

theorem tagWord?_plain {cs rest : List Char} (h : Plain rest cs)
    (hrest : tagWord? (skipSpacing rest) ≠ some "extends") :
    tagWord? (skipSpacing (cs ++ rest)) ≠ some "extends" := by
  induction h with
  | nil => exact hrest
  | @cons c cs hmark _ ih =>
    rw [List.cons_append]
    cases hspace : isSpace c with
    | true =>
      rw [skipSpacing_space hspace]
      exact ih
    | false =>
      have hunspaced : Unspaced (c :: (cs ++ rest)) := ⟨fun _ h => Option.some.inj h ▸ hspace, hmark.comment⟩
      rw [skipSpacing_of_unspaced hunspaced, tagWord?, hmark.statement]
      exact (Option.some_ne_none _).symm

/-! ## All segments -/

theorem contentUpTo_segments {segments : List Segment} (h : Proper segments) {n : Nat}
    (hn : (sourceOf segments).length ≤ n) (text : List Char) (names : List String) :
    contentUpTo source n text names (sourceOf segments) =
      .ok ⟨withText ((textOf segments).reverse ++ text) [], names, []⟩ := by
  induction h generalizing n text with
  | nil => exact contentUpTo_ends source .source hn text names
  | @plain cs rest hmarks hlast _ ih =>
    have hplain : Plain (sourceOf rest) cs := plain_of_markless hmarks fun hbrace => by rw [hlast hbrace]; rfl
    obtain ⟨m, hm, hread⟩ := contentUpTo_plain source hplain hn text names
    have htext : (textOf (.plain cs :: rest)).reverse = (textOf rest).reverse ++ cs.reverse :=
      List.reverse_append
    show contentUpTo source n text names (cs ++ sourceOf rest) = _
    rw [hread, ih hm, htext, List.append_assoc]
  | @comment body rest hbody _ ih =>
    have hsource : sourceOf (.comment body :: rest) =
      '\x7b' :: '#' :: (body ++ '#' :: '\x7d' :: sourceOf rest) := rfl
    have hcomment := comment?_append hbody (sourceOf rest)
    have hlen := comment?_length hcomment
    rw [hsource] at hn ⊢
    obtain ⟨k, rfl⟩ : ∃ k, n = k + 1 := ⟨n - 1, by omega⟩
    rw [contentUpTo_comment source hcomment, ih (by omega)]
    rfl
  | @verbatim body rest hbody _ ih =>
    have hsource : sourceOf (.verbatim body :: rest) =
      tag "verbatim" (tagEnd (body ++ tag "endverbatim" (tagEnd (sourceOf rest)))) := rfl
    have htext : (textOf (.verbatim body :: rest)).reverse = (textOf rest).reverse ++ body.reverse :=
      List.reverse_append
    rw [hsource] at hn ⊢
    simp only [length_tag, length_tagEnd, List.length_append] at hn
    obtain ⟨k, rfl⟩ : ∃ k, n = k + 1 := ⟨n - 1, by omega⟩
    rw [contentUpTo_tag source (by decide), if_pos rfl, verbatim_written hbody, Except.ok_bind]
    show contentUpTo source k (body.reverse ++ text) names (sourceOf rest) = _
    rw [ih (by omega), htext, List.append_assoc]

theorem tagWord?_segments {segments : List Segment} (h : Proper segments) :
    tagWord? (skipSpacing (sourceOf segments)) ≠ some "extends" := by
  induction h with
  | nil => nofun
  | plain hmarks hlast _ ih =>
    exact tagWord?_plain (plain_of_markless hmarks fun hbrace => by rw [hlast hbrace]; rfl) ih
  | @comment body rest hbody _ ih =>
    show tagWord? (skipSpacing ('\x7b' :: '#' :: (body ++ '#' :: '\x7d' :: sourceOf rest))) ≠ _
    rw [skipSpacing_comment (comment?_append hbody (sourceOf rest))]
    exact ih
  | @verbatim body rest _ _ _ =>
    show tagWord? (skipSpacing (tag "verbatim" _)) ≠ _
    rw [skipSpacing_tag, tagWord?_tag (by decide)]
    decide

theorem document_segments {segments : List Segment} (h : Proper segments) :
    document (sourceOf segments) = .ok (.root (withText (textOf segments).reverse [])) := by
  have hread := contentUpTo_segments (sourceOf segments) h (Nat.le_refl _) [] []
  rw [List.append_nil] at hread
  have hcontent : content (sourceOf segments) [] (sourceOf segments) = .ok _ := hread
  simp only [document, if_neg (tagWord?_segments h), root, hcontent, Except.ok_bind]
  rfl

/-! ## Templates -/

/-- A template that consists of one text, or of nothing if the text is empty. -/
def contentOfText (text : String) : Content := if text = "" then [] else [.text text]

theorem withText_segments (segments : List Segment) :
    withText (textOf segments).reverse [] = contentOfText (String.ofList (textOf segments)) := by
  cases htext : textOf segments with
  | nil => rfl
  | cons c cs =>
    have hne : String.ofList (c :: cs) ≠ "" := by simp
    rw [contentOfText, if_neg hne, withText, List.reverse_reverse]
    simp

/-- Every rendering writes the text and ends well. -/
theorem render_contentOfText (name : Option String) (text : String) (env : Environment) (caller : Table Value) :
    let outcome := Template.render { name, content := contentOfText text } env caller
    outcome.failure = none ∧ outcome.run.sink.written = text.toUTF8 := by
  intro outcome
  have houtcome : outcome = env.renderNodes env.includeNamed (contentOfText text) { scope := { caller }, sink := {} } :=
    env.renderContent_eq ..
  rw [houtcome, contentOfText]
  split
  · rename_i hempty
    subst hempty
    exact ⟨rfl, rfl⟩
  · rw [Environment.renderNodes, Environment.renderNode]
    simp only [Environment.renderNodes]
    exact ⟨rfl, ByteArray.empty_append⟩

/-- A source without directives is read as one text, and so is every template made of it;
    whoever renders that template gets exactly the text. -/
theorem segments_reproduced {segments : List Segment} (h : Proper segments) :
    let source := String.ofList (sourceOf segments)
    let text := String.ofList (textOf segments)
    Document.parse source = .ok (.root (contentOfText text)) ∧
    ∀ env : Environment,
      env.templateOfSource source = .ok { content := contentOfText text } ∧
      (∀ name, env.load name = .ok source →
        env.template name = .ok { name := some name, content := contentOfText text }) ∧
      ∀ name caller, let outcome := Template.render { name, content := contentOfText text } env caller
        outcome.failure = none ∧ outcome.run.sink.written = text.toUTF8 := by
  intro source text
  have hparse : Document.parse source = .ok (.root (contentOfText text)) := by
    rw [Document.parse, String.toList_ofList, document_segments h, withText_segments]
    rfl
  refine ⟨hparse, fun env => ?_⟩
  have hcompile : env.compile (.root (contentOfText text)) = .ok (contentOfText text) := by
    rw [Environment.compile, Environment.compileUpTo]
  refine ⟨?_, fun name hload => ?_, fun name caller => render_contentOfText name text env caller⟩
  · exact bind_eq_ok.mpr ⟨_, mapError_eq_ok.mpr hparse,
      bind_eq_ok.mpr ⟨_, mapError_eq_ok.mpr hcompile, rfl⟩⟩
  · have hdocument : env.loadDocument name = .ok (.root (contentOfText text)) :=
      bind_eq_ok.mpr ⟨_, mapError_eq_ok.mpr hload, mapError_eq_ok.mpr hparse⟩
    have hnamed : env.compileNamed name = .ok (contentOfText text) :=
      bind_eq_ok.mpr ⟨_, hdocument, hcompile⟩
    exact bind_eq_ok.mpr ⟨_, mapError_eq_ok.mpr hnamed, rfl⟩

/-- A comment that names a parent, a brace on its own, tags that nothing closes and, at the
    end, a brace that nothing follows. -/
theorem segments_reproduced_tags : ∃ segments : List Segment, Proper segments ∧
    String.ofList (sourceOf segments) = "\x7b#\x7b%extends x%\x7d#\x7da\x7bb " ++
      "\x7b% verbatim %\x7d\x7b\x7bx\x7b%if\x7b#\x7b% endverbatim %\x7d#\x7d\x7b" ∧
    Document.parse (String.ofList (sourceOf segments)) =
      .ok (.root (contentOfText "a\x7bb \x7b\x7bx\x7b%if\x7b##\x7d\x7b")) := by
  let segments : List Segment := [.comment "\x7b%extends x%\x7d".toList, .plain "a\x7bb ".toList,
    .verbatim "\x7b\x7bx\x7b%if\x7b#".toList, .plain "#\x7d\x7b".toList]
  have hcomment : ¬ "#\x7d".toList <:+: "\x7b%extends x%\x7d".toList := fun hin =>
    absurd (hin.subset (List.mem_cons_self ..)) (by decide)
  have hunclosed : Unclosed "\x7b\x7bx\x7b%if\x7b#".toList "#\x7d\x7b".toList := by
    intro before after h
    have htail : '\x7b' :: '%' :: after <:+ "\x7b\x7bx\x7b%if\x7b#".toList := ⟨before, h.symm⟩
    obtain rfl : after = ['i', 'f', '\x7b', '#'] := by simpa [List.suffix_cons_iff] using htail
    have hword : tagWord? ('\x7b' :: '%' :: (['i', 'f', '\x7b', '#'] ++
      tag "endverbatim" (tagEnd "#\x7d\x7b".toList))) = some "if" := by with_unfolding_all rfl
    rw [hword]
    decide
  have hlast : Proper [.plain "#\x7d\x7b".toList] := .plain (by decide) (fun _ => rfl) .nil
  have hproper : Proper segments :=
    .comment hcomment (.plain (by decide) nofun (.verbatim hunclosed hlast))
  exact ⟨segments, hproper, rfl, (segments_reproduced hproper).1⟩

end TemplateEngine
