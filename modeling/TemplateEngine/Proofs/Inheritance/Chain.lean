/-
  TemplateEngine.Proofs.Inheritance.Chain — documents whose parents have parents.

  A chain of documents ends in a root. Its overrides are listed by document, the lowest
  first (`Chain`). They reach the root's content from the highest document down, so an
  override of the root's block is itself walked by the overrides of the documents below.

  Proved, for chains of any length that the limit allows:
  - `compileUpTo_eq_walkDown`: the chain compiles, to the root's content walked by the
    overrides of one document after another, the highest first.
  - `walkDown_eq_mapBlocks`: such walks change the outermost blocks only, and each of them
    to what the closest override makes of it (`closestBody`).
  - `compile_closest`: both together.
-/

import TemplateEngine.Proofs.Inheritance.Override

namespace TemplateEngine

open Grammar (overrideNames nodup_names_of_parse)

/-- A document's parents up to the root, as the overrides of each document and the root's
    content. -/
inductive Chain (env : Environment) : Document → List (List Override) → Content → Prop
  | root (content : Content) : Chain env (.root content) [] content
  | extending {position : Position} {parent : String} {overrides : List Override}
      {document : Document} {levels : List (List Override)} {content : Content} :
      env.loadDocument parent = .ok document → Chain env document levels content →
        Chain env (.extending position parent overrides) (overrides :: levels) content

/-- Content walked by the overrides of one document after another, the highest first. -/
def walkDown (levels : List (List Override)) (content : Content) : Content :=
  levels.foldr (fun overrides c => substituteBlocks (overrideBody overrides) c) content

/-- What becomes of the content of a root's block: the closest override of its name, or
    its own content if there is none, walked by the overrides of the documents below. -/
def closestBody (levels : List (List Override)) (name : String) (own : Content) : Content :=
  walkDown (levels.takeWhile fun overrides => (overrideBody overrides name).isNone)
    ((levels.findSome? (overrideBody · name)).getD own)

/-! ## Compiling a chain -/

theorem parsed_of_loadDocument {env : Environment} {name : String} {document : Document}
    (h : env.loadDocument name = .ok document) : ∃ source, Document.parse source = .ok document := by
  rw [Environment.loadDocument] at h
  obtain ⟨source, -, h⟩ := Except.bind_eq_ok.mp h
  exact ⟨source, Except.mapError_eq_ok.mp h⟩

theorem compileUpTo_eq_walkDown {env : Environment} {document : Document}
    {levels : List (List Override)} {content : Content} (h : Chain env document levels content) :
    (∃ source, Document.parse source = .ok document) → ∀ n, levels.length ≤ n →
      env.compileUpTo n document = .ok (walkDown levels content) := by
  induction h with
  | root content => intro _ n _; cases n <;> rfl
  | extending hload _ ih =>
    rename_i position parent overrides document levels content _
    rintro ⟨source, hparse⟩ n hn
    cases n with
    | zero => exact absurd hn (by simp)
    | succ n =>
      have hparent := ih (parsed_of_loadDocument hload) n (by simpa using hn)
      rw [Environment.compileUpTo, hload, Except.ok_bind, hparent, Except.ok_bind,
        override_eq_substitute (nodup_names_of_parse hparse)]
      rfl

/-! ## The closest override -/

/-- One document more below the chain: its override is the closest, or else its overrides
    walk what the chain above has made. -/
theorem closestBody_cons (overrides : List Override) (levels : List (List Override)) (name : String)
    (own : Content) :
    closestBody (overrides :: levels) name own =
      (overrideBody overrides name).getD
        (substituteBlocks (overrideBody overrides) (closestBody levels name own)) := by
  unfold closestBody
  cases h : overrideBody overrides name with
  | some body => simp [h, walkDown]
  | none => simp [h, walkDown]

theorem walkDown_eq_mapBlocks (levels : List (List Override)) (content : Content) :
    walkDown levels content = mapBlocks (closestBody levels) content := by
  induction levels with
  | nil => exact (mapBlocks_self content).symm
  | cons overrides levels ih =>
    have hstep : (fun name own => (overrideBody overrides name).getD
        (substituteBlocks (overrideBody overrides) (closestBody levels name own))) =
        closestBody (overrides :: levels) := by
      funext name own
      rw [closestBody_cons]
    calc walkDown (overrides :: levels) content
      _ = substituteBlocks (overrideBody overrides) (mapBlocks (closestBody levels) content) := by
        rw [← ih]; rfl
      _ = mapBlocks (closestBody (overrides :: levels)) content := by
        rw [substituteBlocks_eq_mapBlocks, mapBlocks_mapBlocks, hstep]

/-- A chain within the limit compiles to its root's content with nothing changed but the
    content of the outermost blocks, and each of these is made by the closest override. -/
theorem compile_closest {source : String} {document : Document}
    (hparse : Document.parse source = .ok document) {env : Environment} {levels : List (List Override)}
    {content : Content} (hchain : Chain env document levels content)
    (hlimit : levels.length ≤ env.config.maxInheritanceDepth) :
    env.compile document = .ok (mapBlocks (closestBody levels) content) := by
  rw [Environment.compile, compileUpTo_eq_walkDown hchain ⟨source, hparse⟩ _ hlimit,
    walkDown_eq_mapBlocks]

/-- A page puts a new block into a block of the base, and the page's child overrides it. -/
theorem compile_block_of_middle :
    ∃ env : Environment, ∃ levels : List (List Override), ∃ document : Document,
      Document.parse "\x7b%extends'm'%\x7d\x7b%block b%\x7dB\x7b%endblock%\x7d" = .ok document ∧
      Chain env document levels [.block ⟨0, 1, 1⟩ "a" []] ∧
      levels.length ≤ env.config.maxInheritanceDepth ∧
      env.compile document =
        .ok [.block ⟨0, 1, 1⟩ "a" [.block ⟨25, 1, 26⟩ "b" [.text "B"]]] := by
  let env : Environment :=
    { load := Loader.ofTable
        [("r", "\x7b%block a%\x7d\x7b%endblock%\x7d"),
          ("m", "\x7b%extends'r'%\x7d\x7b%block a%\x7d\x7b%block b%\x7d\x7b%endblock%\x7d\x7b%endblock%\x7d")] }
  have hroot : env.loadDocument "r" = .ok (.root [.block ⟨0, 1, 1⟩ "a" []]) := by with_unfolding_all rfl
  have hmiddle : env.loadDocument "m" = .ok (.extending ⟨0, 1, 1⟩ "r"
      [⟨⟨14, 1, 15⟩, "a", [.block ⟨25, 1, 26⟩ "b" []]⟩]) := by with_unfolding_all rfl
  have hparse : Document.parse "\x7b%extends'm'%\x7d\x7b%block b%\x7dB\x7b%endblock%\x7d" =
      .ok (.extending ⟨0, 1, 1⟩ "m" [⟨⟨14, 1, 15⟩, "b", [.text "B"]⟩]) := by with_unfolding_all rfl
  have hchain : Chain env (.extending ⟨0, 1, 1⟩ "m" [⟨⟨14, 1, 15⟩, "b", [.text "B"]⟩]) _ _ :=
    .extending hmiddle (.extending hroot (.root _))
  exact ⟨env, _, _, hparse, hchain, by decide, compile_closest hparse hchain (by decide)⟩

end TemplateEngine
