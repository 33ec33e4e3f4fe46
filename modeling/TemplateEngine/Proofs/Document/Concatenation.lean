/-
  TemplateEngine.Proofs.Document.Concatenation — one source behind another.

  Content goes on where it ends. So the content of two sources put together is that of the
  first, with that of the second behind it, at the positions it has there now. The two meet
  in three ways: a brace at the end of the first may open a tag with what follows it, a
  comment mark in its text may find its end there, and a block name may be taken.

  That the second source has no parent does not have to be known where it starts: what is
  read as content never starts with the tag that names one (`not_extends`).

  Proved:
  - `parse_append`: two sources that do not meet in these ways are read one behind the other,
    and rendered one behind the other, the second in the scope that the first has left.
-/

import TemplateEngine.Proofs.Locality.Content
import TemplateEngine.Proofs.Rendering.Joined

namespace TemplateEngine

namespace Grammar

open Scan TemplateEngine.Except

/-- What is read as content up to the end of the source does not start by naming a parent. -/
theorem not_extends {S text : List Char} {n : Nat} {names : List String} {s : List Char} {read : Read Content}
    (h : contentUpTo S n text names s = .ok read) (hrest : read.rest = []) :
    tagWord? (skipSpacing s) ≠ some "extends" := by
  obtain ⟨-, w, hw, hs⟩ := spacing_skipSpacing s
  intro hword
  generalize skipSpacing s = r at hs hword
  subst hs
  -- behind the spacing, which is read as text, content comes to the tag, and there is no such statement
  induction hw generalizing n text with
  | nil =>
    cases n with
    | zero =>
      cases h
      obtain rfl : r = [] := hrest
      cases hword
    | succ n =>
      rw [List.nil_append, contentUpTo_of_tagWord? S hword] at h
      obtain ⟨node, hnode, -⟩ := bind_eq_ok.mp h
      obtain ⟨word, hmem, hword'⟩ := statementWord S hnode
      obtain rfl := Option.some.inj (hword.symm.trans hword')
      exact absurd hmem (by decide)
  | @blank c w hc _ ih =>
    have hbrace : c ≠ '\x7b' := by
      rintro rfl
      exact absurd hc (by decide)
    cases n with
    | zero => cases h; cases hrest
    | succ n =>
      rw [List.cons_append, contentUpTo_unmarked S (unmarked_char hbrace _)] at h
      exact ih h
  | @comment body w hbody _ ih =>
    have hread : comment? (('\x7b' :: '#' :: (body ++ '#' :: '\x7d' :: w)) ++ r) = some (w ++ r) :=
      comment?_eq_some_iff.mpr ⟨body, hbody, by simp⟩
    cases n with
    | zero => cases h; cases hrest
    | succ n =>
      rw [contentUpTo_comment S hread] at h
      exact ih h

/-- Content that reaches to the end of its source, in front of the content of another source. -/
theorem content_append {a b : List Char} {A B : Content} {names names' : List String}
    (ha : content a [] a = .ok ⟨A, names, []⟩) (hb : content b [] b = .ok ⟨B, names', []⟩)
    (hbrace : a.getLast? ≠ some '\x7b')
    (hcomment : ∀ text : String, Occurs (.text text) A → Uncommented text.toList)
    (hblocks : ∀ name ∈ Content.blockNames B, name ∉ names) :
    content (a ++ b) [] (a ++ b) =
      .ok ⟨A.joined (Content.mapPositions (Position.behind a b) B), names' ++ names, []⟩ := by
  have hsecond : ∀ k, b.length ≤ k → contentUpTo (a ++ b) k [] names b =
      .ok ⟨Content.mapPositions (Position.behind a b) B, names' ++ names, []⟩ := by
    intro k hk
    have hread : contentUpTo b b.length [] [] (b ++ []) = .ok ⟨B, names', []⟩ := by
      rw [List.append_nil]
      exact hb
    have hmoved : Moved (Position.behind a b) b (a ++ b) [] [] :=
      fun rest hrest => Position.behind_before a hrest
    have hfits : Fits names [] [] B := ⟨.inl rfl, hblocks⟩
    have hend : ∀ k, 0 ≤ k → contentUpTo (a ++ b) k [] (names' ++ names) [] = .ok ⟨[], names' ++ names, []⟩ :=
      fun k hk => contentUpTo_ends (a ++ b) .source hk [] _
    have hcarried := contentUpTo_carried hread hmoved (by rw [List.append_nil]) hfits (fun _ => .inl rfl) hend
      (show (b ++ []).length ≤ k by rwa [List.append_nil])
    rwa [List.append_nil, joined_nil] at hcarried
  have hread : contentUpTo a a.length [] [] (a ++ []) = .ok ⟨A, names, []⟩ := by
    rw [List.append_nil]
    exact ha
  have hend : ['\x7b'] <:+ a → [] = b ∨ ([] : List Char).head? = some '\x7b' := by
    rintro ⟨front, hfront⟩
    exact absurd (by rw [← hfront, List.getLast?_concat]) hbrace
  have hfits : Fits [] [] b A := ⟨.inr hcomment, fun _ _ => List.not_mem_nil⟩
  have hcarried := contentUpTo_carried hread (moved_append a [] b) (by rw [List.append_nil]) hfits hend
    (by rwa [List.append_nil]) (Nat.le_refl (a ++ b).length)
  rwa [mapPositions_id] at hcarried

end Grammar

open Grammar TemplateEngine.Except

theorem content_of_parse {source : String} {found : Content} (h : Document.parse source = .ok (.root found)) :
    ∃ names, content source.toList [] source.toList = .ok ⟨found, names, []⟩ := by
  rcases (document_eq_ok_iff _).mp (Document.parse_eq_ok_iff.mp h) with
    ⟨-, _, _, _, _, _, -, -, -, -, hroot⟩ | ⟨-, ⟨_, names, _⟩, hread, rfl, hroot⟩
  · cases hroot
  · obtain rfl := Document.root.inj hroot
    exact ⟨names, hread⟩

/-- A source without a parent is a template as it was read. -/
theorem templateOfSource_root {source : String} {found : Content} (h : Document.parse source = .ok (.root found))
    (env : Environment) : env.templateOfSource source = .ok { content := found } := by
  have hcompile : env.compile (.root found) = .ok found := by
    rw [Environment.compile, Environment.compileUpTo]
  exact bind_eq_ok.mpr ⟨_, mapError_eq_ok.mpr h, bind_eq_ok.mpr ⟨_, mapError_eq_ok.mpr hcompile, rfl⟩⟩

/-- Two sources one behind the other are one template, with the content of the second behind
    that of the first. It is rendered as the second would be where the first has come to, and
    a sink without limit gets what the second writes behind what the first has written. -/
theorem parse_append {a b : String} {A B : Content} (ha : Document.parse a = .ok (.root A))
    (hb : Document.parse b = .ok (.root B)) (hbrace : a.toList.getLast? ≠ some '\x7b')
    (hcomment : ∀ text : String, Occurs (.text text) A → ¬ "\x7b#".toList <:+: text.toList)
    (hblocks : ∀ name ∈ Content.blockNames A, name ∉ Content.blockNames B) :
    let moved := Position.behind a.toList b.toList
    let joined := A.joined (Content.mapPositions moved B)
    Document.parse (a ++ b) = .ok (.root joined) ∧
      ∀ env : Environment, env.templateOfSource (a ++ b) = .ok { content := joined } ∧
        ∀ run : Run, (env.renderContent A run).failure = none →
          let between := (env.renderContent A run).run
          let whole := env.renderContent joined run
          Outcome.Moved moved (env.renderContent B between) whole ∧
            (run.sink.room = none → whole.run.sink.written = between.sink.written ++
              (env.renderContent B { between with sink := ({} : Sink) }).run.sink.written) := by
  intro moved joined
  have hparse : Document.parse (a ++ b) = .ok (.root joined) := by
    rw [Document.parse_eq_ok_iff, String.toList_append]
    obtain ⟨names, hA⟩ := content_of_parse ha
    obtain ⟨names', hB⟩ := content_of_parse hb
    have hnames := (contentUpTo_tracks a.toList a.toList.length [] [] a.toList _ hA).added
    have hfresh : ∀ name ∈ Content.blockNames B, name ∉ names := by
      intro name hname htaken
      have hblock := hnames.subset htaken
      rw [List.append_nil] at hblock
      exact hblocks name hblock hname
    have hread := content_append hA hB hbrace hcomment hfresh
    exact (document_eq_ok_iff _).mpr (.inr ⟨not_extends hread rfl, _, hread, rfl, rfl⟩)
  refine ⟨hparse, fun env => ⟨templateOfSource_root hparse env, fun run hsuccess => ?_⟩⟩
  intro between whole
  have hwhole : whole = env.renderContent (Content.mapPositions moved B) between := by
    show env.renderContent (A.joined _) run = _
    rw [env.renderContent_joined, Outcome.andThen, hsuccess]
  have hmoved := env.renderContent_mapPositions moved B between
  rw [← hwhole] at hmoved
  refine ⟨hmoved, fun hroom => ?_⟩
  rw [hmoved.run]
  exact (env.written_behind B between (env.written_behind A run hroom).1).2

/-- The text at the end of the first source goes on in the second one, which reads a variable
    that the first has set. -/
theorem parse_append_text :
    let joined : Content := [.text "é", .assignment ⟨2, 1, 2⟩ "v" (.literal (.int 1)), .text "xy",
      .output ⟨19, 1, 19⟩ (.var "v")]
    let run : Run := { scope := { caller := [] }, sink := {} }
    Document.parse ("é\x7b% set v = 1 %\x7dx" ++ "y\x7b\x7b v \x7d\x7d") = .ok (.root joined) ∧
      (({} : Environment).renderContent joined run).run.sink.written = "éxy1".toUTF8 := by
  intro joined run
  let A : Content := [.text "é", .assignment ⟨2, 1, 2⟩ "v" (.literal (.int 1)), .text "x"]
  let B : Content := [.text "y", .output ⟨1, 1, 2⟩ (.var "v")]
  have ha : Document.parse "é\x7b% set v = 1 %\x7dx" = .ok (.root A) := by rfl
  have hb : Document.parse "y\x7b\x7b v \x7d\x7d" = .ok (.root B) := by rfl
  have hcomment : ∀ text : String, Occurs (.text text) A → ¬ "\x7b#".toList <:+: text.toList := by
    intro text h
    cases h with
    | here hmem =>
      have htext : text = "é" ∨ text = "x" := by simpa [A] using hmem
      rcases htext with rfl | rfl <;> decide
    | inside hmem hpart _ =>
      simp only [A, List.mem_cons, List.not_mem_nil, or_false] at hmem
      rcases hmem with rfl | rfl | rfl <;> cases hpart
  obtain ⟨hparse, hrender⟩ := parse_append ha hb (by decide) hcomment (by decide)
  refine ⟨hparse, ?_⟩
  have hfirst : ({} : Environment).renderContent A run =
      { run := { scope := { caller := [], bottom := [("v", .int 1)] }, sink := { written := "éx".toUTF8 } } } := by
    simp only [Environment.renderContent_eq, A, Environment.renderNodes, Environment.renderNode,
      Environment.evaluate]
    rfl
  obtain ⟨-, hwritten⟩ := (hrender {}).2 run (by rw [hfirst])
  refine (hwritten rfl).trans ?_
  rw [hfirst]
  simp only [Environment.renderContent_eq, B, Environment.renderNodes, Environment.renderNode,
    Environment.evaluate]
  rfl

end TemplateEngine
