/-
  TemplateEngine.Proofs.Rendering.Transcript — what a run writes, whoever takes it.

  Rendering reads the scope and never the writer, but for whether a text was taken whole;
  where one was not, the run ends. So the texts, their order and how it all ends are
  settled before there is a writer: they make a transcript, which a writer replays.

  Proved, for every environment:
  - `renderNode_transcribed` / `renderNodes_transcribed` / `renderBranches_transcribed`: one
    node, a list of nodes and the branches of a conditional have a transcript, if inclusions do.
  - `renderContent_transcribed`: every content has one, in every scope.
-/

import TemplateEngine.Render

namespace TemplateEngine

structure Transcript where
  /-- The texts, each with the scope that it is written in. -/
  texts : List (Scope × String)
  scope : Scope
  failure : Option RenderError

theorem Outcome.andThen_assoc {σ : Type} (o : Outcome σ) (f g : Run σ → Outcome σ) :
    (o.andThen f).andThen g = o.andThen fun run => (f run).andThen g := by
  obtain ⟨run, failure⟩ := o
  cases failure <;> rfl

theorem Outcome.andThen_done {σ : Type} (o : Outcome σ) : (o.andThen fun run => { run }) = o := by
  obtain ⟨run, failure⟩ := o
  cases failure <;> rfl

section Replay

variable {σ : Type} [Writer σ]

/-- Writes texts as long as they are taken, and goes on behind the last one. -/
def writeAll (next : σ → Outcome σ) : List (Scope × String) → σ → Outcome σ
  | [], sink => next sink
  | (scope, text) :: rest, sink =>
    (Run.write { scope, sink } text).andThen fun run => writeAll next rest run.sink

def Transcript.replay (t : Transcript) (sink : σ) : Outcome σ :=
  writeAll (fun sink => { run := { scope := t.scope, sink }, failure := t.failure }) t.texts sink

theorem writeAll_append (next : σ → Outcome σ) (texts more : List (Scope × String)) (sink : σ) :
    writeAll next (texts ++ more) sink = writeAll (writeAll next more) texts sink := by
  induction texts generalizing sink with
  | nil => rfl
  | cons w texts ih =>
    rw [List.cons_append, writeAll, writeAll]
    congr 1
    funext run
    exact ih run.sink

theorem andThen_writeAll (next : σ → Outcome σ) (g : Run σ → Outcome σ) (texts : List (Scope × String))
    (sink : σ) : (writeAll next texts sink).andThen g = writeAll (fun sink => (next sink).andThen g) texts sink := by
  induction texts generalizing sink with
  | nil => rfl
  | cons w texts ih =>
    rw [writeAll, writeAll, Outcome.andThen_assoc]
    congr 1
    funext run
    exact ih run.sink

theorem mapScope_writeAll (next : σ → Outcome σ) (f : Scope → Scope) (texts : List (Scope × String))
    (sink : σ) : (writeAll next texts sink).mapScope f =
      writeAll (fun sink => (next sink).mapScope f) (texts.map fun w => (f w.1, w.2)) sink := by
  induction texts generalizing sink with
  | nil => rfl
  | cons w texts ih =>
    obtain ⟨scope, text⟩ := w
    have hwrite : (Run.write { scope := f scope, sink } text) = (Run.write { scope, sink } text).mapScope f := rfl
    rw [List.map_cons, writeAll, writeAll, hwrite]
    generalize Run.write { scope, sink } text = o
    obtain ⟨run, failure⟩ := o
    cases failure with
    | none => exact ih run.sink
    | some e => rfl

end Replay

/-! ## Renderers that have a transcript -/

/-- The renderer, started in any scope, does for all writers what one transcript says. -/
def Transcribed (render : (σ : Type) → [Writer σ] → Run σ → Outcome σ) : Prop :=
  ∀ scope, ∃ t : Transcript, ∀ (σ : Type) [Writer σ] (sink : σ), render σ { scope, sink } = t.replay sink

namespace Transcribed

variable {render next : (σ : Type) → [Writer σ] → Run σ → Outcome σ}

theorem congr (h : Transcribed next) (heq : ∀ (σ : Type) [Writer σ] (run : Run σ), render σ run = next σ run) :
    Transcribed render := by
  intro scope
  obtain ⟨t, ht⟩ := h scope
  exact ⟨t, fun σ _ sink => (heq σ _).trans (ht σ sink)⟩

theorem ends (failure : Option RenderError) : Transcribed fun _ [Writer _] run => { run, failure } :=
  fun scope => ⟨⟨[], scope, failure⟩, fun _ _ _ => rfl⟩

theorem write (text : String) : Transcribed fun _ [Writer _] run => run.write text := by
  intro scope
  refine ⟨⟨[(scope, text)], scope, none⟩, fun σ _ sink => ?_⟩
  rcases hw : Writer.write sink text with ⟨sink', complete⟩
  simp only [Transcript.replay, writeAll, Run.write, hw]
  cases complete <;> rfl

theorem andThen (h : Transcribed render) (hnext : Transcribed next) :
    Transcribed fun σ [Writer σ] run => (render σ run).andThen (next σ) := by
  intro scope
  obtain ⟨t, ht⟩ := h scope
  obtain ⟨t', ht'⟩ := hnext t.scope
  cases hfailure : t.failure with
  | some e =>
    refine ⟨t, fun σ _ sink => ?_⟩
    show (render σ { scope, sink }).andThen (next σ) = _
    rw [ht, Transcript.replay, andThen_writeAll, hfailure]
    rfl
  | none =>
    refine ⟨{ t' with texts := t.texts ++ t'.texts }, fun σ _ sink => ?_⟩
    show (render σ { scope, sink }).andThen (next σ) = _
    rw [ht, Transcript.replay, Transcript.replay, andThen_writeAll, writeAll_append, hfailure]
    congr 1
    funext sink
    exact ht' σ sink

theorem writeEach : ∀ texts : List String, Transcribed fun _ [Writer _] run => run.writeEach texts
  | [] => ends none
  | text :: rest => (write text).andThen (writeEach rest)

theorem withValue {next : Value → (σ : Type) → [Writer σ] → Run σ → Outcome σ} (directive : Directive)
    (position : Position) (calculation : Scope → Calculation) (hnext : ∀ v, Transcribed (next v)) :
    Transcribed fun σ [Writer σ] run =>
      run.withValue directive position (calculation run.scope) fun v => next v σ run := by
  intro scope
  cases hv : calculation scope with
  | ok v =>
    obtain ⟨t, ht⟩ := hnext v scope
    refine ⟨t, fun σ _ sink => ?_⟩
    rw [← ht]
    simp only [Run.withValue, hv]
  | error cause =>
    obtain ⟨t, ht⟩ := ends (some (.calculate directive position cause)) scope
    refine ⟨t, fun σ _ sink => ?_⟩
    rw [← ht]
    simp only [Run.withValue, hv]
    rfl

theorem inScope (h : Transcribed render) (f : Scope → Scope) :
    Transcribed fun σ [Writer σ] run => render σ { run with scope := f run.scope } :=
  fun scope => h (f scope)

theorem mapScope (h : Transcribed render) (f : Scope → Scope) :
    Transcribed fun σ [Writer σ] run => (render σ run).mapScope f := by
  intro scope
  obtain ⟨t, ht⟩ := h scope
  refine ⟨⟨t.texts.map fun w => (f w.1, w.2), f t.scope, t.failure⟩, fun σ _ sink => ?_⟩
  show (render σ { scope, sink }).mapScope f = _
  rw [ht, Transcript.replay, mapScope_writeAll]
  rfl

theorem rounds (h : Transcribed render) (target : Target) (length index : Nat)
    (members : List (Value × Value)) :
    Transcribed fun σ [Writer σ] run => Run.rounds target length (render σ) index members run := by
  induction members generalizing index with
  | nil => exact ends none
  | cons member rest ih =>
    have hround : Transcribed fun σ [Writer σ] run => run.round target index length member (render σ) :=
      (h.inScope fun scope =>
        (target.bind member.1 member.2 scope.push).set "loop" (loopState index length)).mapScope Scope.pop
    exact hround.andThen (ih (index + 1))

end Transcribed

/-! ## Content -/

namespace Environment

variable (env : Environment) {included : (σ : Type) → [Writer σ] → String → Run σ → Outcome σ}

mutual

theorem renderNode_transcribed (hi : ∀ name, Transcribed fun σ [Writer σ] => included σ name) :
    ∀ node : Node, Transcribed fun σ [Writer σ] run => env.renderNode (included σ) node run
  | .text text => (Transcribed.write text).congr fun σ _ run => by rw [renderNode]
  | .output position e =>
    (Transcribed.withValue .output position (env.evaluate · e) fun v => .writeEach v.pieces).congr
      fun σ _ run => by rw [renderNode]
  | .block position name content =>
    (renderNodes_transcribed hi content).congr fun σ _ run => by rw [renderNode]
  | .inclusion position name => (hi name).congr fun σ _ run => by rw [renderNode]
  | .conditional position branches none =>
    (renderBranches_transcribed hi position (.ends none) branches).congr fun σ _ run => by rw [renderNode]
  | .conditional position branches (some content) =>
    (renderBranches_transcribed hi position (renderNodes_transcribed hi content) branches).congr
      fun σ _ run => by rw [renderNode]
  | .loop position target collection filters body =>
    (Transcribed.withValue .loop position
      (fun scope => do env.passThrough scope (← env.evaluate scope collection) filters)
      fun v => (renderNodes_transcribed hi body).rounds target v.members.length 0 v.members).congr
        fun σ _ run => by rw [renderNode]
  | .assignment position name e =>
    (Transcribed.withValue .assignment position (env.evaluate · e)
      fun v => (Transcribed.ends none).inScope (·.set name v)).congr fun σ _ run => by rw [renderNode]

theorem renderNodes_transcribed (hi : ∀ name, Transcribed fun σ [Writer σ] => included σ name) :
    ∀ content : Content, Transcribed fun σ [Writer σ] run => env.renderNodes (included σ) content run
  | [] => (Transcribed.ends none).congr fun σ _ run => by rw [renderNodes]
  | node :: rest =>
    ((renderNode_transcribed hi node).andThen (renderNodes_transcribed hi rest)).congr
      fun σ _ run => by rw [renderNodes]

theorem renderBranches_transcribed (hi : ∀ name, Transcribed fun σ [Writer σ] => included σ name)
    (position : Position) {otherwise : (σ : Type) → [Writer σ] → Run σ → Outcome σ}
    (ho : Transcribed otherwise) : ∀ branches : List (Expr × Content),
      Transcribed fun σ [Writer σ] run => env.renderBranches (included σ) position (otherwise σ) branches run
  | [] => ho.congr fun σ _ run => by rw [renderBranches]
  | (condition, content) :: rest => by
    have hbranch (v : Value) : Transcribed fun σ [Writer σ] run =>
        if v.isTruthy then env.renderNodes (included σ) content run
        else env.renderBranches (included σ) position (otherwise σ) rest run := by
      split
      · exact renderNodes_transcribed hi content
      · exact renderBranches_transcribed hi position ho rest
    exact (Transcribed.withValue .conditional position (env.evaluate · condition) hbranch).congr
      fun σ _ run => by rw [renderBranches]

end

theorem renderUpTo_transcribed : ∀ (n : Nat) (content : Content),
    Transcribed fun σ [Writer σ] run => env.renderUpTo n content run := by
  intro n
  induction n with
  | zero =>
    intro content
    exact env.renderNodes_transcribed
      (fun name => .ends (some (.recursiveInclusion name env.config.maxIncludeDepth))) content
  | succ n ih =>
    intro content
    refine env.renderNodes_transcribed (fun name => ?_) content
    split
    · exact .ends _
    · rename_i body _
      exact ((ih body).inScope Scope.enter).mapScope Scope.leave

theorem renderContent_transcribed (content : Content) :
    Transcribed fun σ [Writer σ] run => env.renderContent content run :=
  fun scope => env.renderUpTo_transcribed (env.config.maxIncludeDepth - scope.includeDepth) content scope

end Environment

end TemplateEngine
