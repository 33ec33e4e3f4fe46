/-
  TemplateEngine.Proofs.Rendering.Joined — rendering contents one behind the other.

  A content behind another is rendered from where the other has come to. Two texts that
  have become one are written at once, which makes no difference to a sink. The positions
  in a content are seen in its failures only.

  Proved:
  - `renderContent_joined`: a content behind another is rendered behind it, unless that fails.
  - `renderContent_mapPositions`: other positions only change the positions in failures.
  - `written_behind`: what a run writes into a sink without limit is added to what it holds.
-/

import TemplateEngine.Proofs.Content.Joined
import TemplateEngine.Proofs.Rendering.Calls
import TemplateEngine.Proofs.Rendering.Cutoff

namespace TemplateEngine

/-! ## Contents put together -/

namespace Environment

variable (env : Environment)

theorem renderNodes_joined (included : String → Run → Outcome) (a b : Content) (run : Run) :
    env.renderNodes included (a.joined b) run =
      (env.renderNodes included a run).andThen (env.renderNodes included b) := by
  have hdone : ∀ run, env.renderNodes included [] run = { run } := fun run => by rw [renderNodes]
  have htext : ∀ x rest run, env.renderNodes included (.text x :: rest) run =
      (run.write x).andThen (env.renderNodes included rest) := by
    intro x rest run
    rw [renderNodes, renderNode]
  fun_induction Content.joined a b generalizing run with
  | case1 b => rw [hdone]; rfl
  | case2 x y b =>
    calc env.renderNodes included (.text (x ++ y) :: b) run
      _ = (run.write x).andThen fun run => (run.write y).andThen (env.renderNodes included b) := by
        rw [htext, Run.write_append, Outcome.andThen_assoc]
      _ = (run.write x).andThen fun run => (env.renderNodes included [] run).andThen
            (env.renderNodes included (.text y :: b)) := by
        simp only [hdone, Outcome.andThen, htext]
      _ = _ := by rw [htext, Outcome.andThen_assoc]
  | case3 b node a _ ih =>
    rw [renderNodes, renderNodes, Outcome.andThen_assoc]
    simp only [ih]

theorem renderContent_joined (a b : Content) (run : Run) :
    env.renderContent (a.joined b) run = (env.renderContent a run).andThen (env.renderContent b) := by
  rw [renderContent_eq, renderNodes_joined, ← renderContent_eq]
  congr 1
  funext run
  exact (env.renderContent_eq b run).symm

end Environment

/-! ## Positions -/

/-- The same failure, where the position of a directive may have been changed. -/
inductive RenderError.Moved (f : Position → Position) : RenderError → RenderError → Prop
  | same (e : RenderError) : Moved f e e
  | calculate (directive : Directive) (position : Position) (cause : CalculateError) :
      Moved f (.calculate directive position cause) (.calculate directive (f position) cause)

/-- The same outcome, where the position in the failure may have been changed. -/
structure Outcome.Moved {σ : Type} (f : Position → Position) (o o' : Outcome σ) : Prop where
  run : o'.run = o.run
  failure : Option.Rel (RenderError.Moved f) o.failure o'.failure

namespace Outcome.Moved

variable {σ : Type} {f : Position → Position} {o o' : Outcome σ}

theorem refl (o : Outcome σ) : Moved f o o := by
  refine ⟨rfl, ?_⟩
  cases o.failure with
  | none => exact .none
  | some e => exact .some (.same e)

theorem andThen {next next' : Run σ → Outcome σ} (h : Moved f o o') (hnext : ∀ run, Moved f (next run) (next' run)) :
    Moved f (o.andThen next) (o'.andThen next') := by
  obtain ⟨run, failure⟩ := o
  obtain ⟨_, failure'⟩ := o'
  obtain ⟨rfl, hfailure⟩ := h
  cases hfailure with
  | none => exact hnext _
  | some he => exact ⟨rfl, .some he⟩

theorem withValue {next next' : Value → Outcome σ} (run : Run σ) (directive : Directive) (position : Position)
    (calculation : Calculation) (hnext : ∀ v, Moved f (next v) (next' v)) :
    Moved f (run.withValue directive position calculation next)
      (run.withValue directive (f position) calculation next') := by
  cases calculation with
  | ok v => exact hnext v
  | error cause => exact ⟨rfl, .some (.calculate directive position cause)⟩

end Outcome.Moved

namespace Environment

variable {σ : Type} [Writer σ] (env : Environment) (f : Position → Position) (included : String → Run σ → Outcome σ)

theorem simulation_moved : Simulation (fun _ => True) env env included included Eq (Outcome.Moved f) where
  done := by
    rintro run _ rfl
    exact .refl _
  andThen ho hnext := ho.andThen fun run => hnext run run rfl
  write := by
    rintro run _ text rfl
    exact .refl _
  withValue := by
    rintro run _ next next' directive position e - rfl hnext
    unfold Run.withValue
    split
    · exact hnext _
    · exact .refl _
  set := by
    rintro run _ name value rfl
    rfl
  push := by
    rintro run _ rfl
    rfl
  pop h := ⟨congrArg (fun run : Run σ => { run with scope := run.scope.pop }) h.run, h.failure⟩
  included := by
    rintro run _ name rfl
    exact .refl _

mutual

theorem renderNode_mapPositions : ∀ (node : Node) (run : Run σ),
    Outcome.Moved f (env.renderNode included node run) (env.renderNode included (node.mapPositions f) run)
  | .text _, run => by
    rw [Node.mapPositions]
    exact .refl _
  | .inclusion _ _, run => by
    rw [Node.mapPositions, renderNode, renderNode]
    exact .refl _
  | .output position e, run => by
    rw [Node.mapPositions, renderNode, renderNode]
    exact .withValue run .output position _ fun _ => .refl _
  | .block _ _ content, run => by
    rw [Node.mapPositions, renderNode, renderNode]
    exact renderNodes_mapPositions content run
  | .conditional position branches none, run => by
    rw [Node.mapPositions, Content.mapPositionsOfOption, renderNode, renderNode]
    exact renderBranches_mapPositions position (fun _ => .refl _) branches run
  | .conditional position branches (some content), run => by
    rw [Node.mapPositions, Content.mapPositionsOfOption, renderNode, renderNode]
    exact renderBranches_mapPositions position (fun run => renderNodes_mapPositions content run) branches run
  | .loop position target collection filters body, run => by
    rw [Node.mapPositions, renderNode, renderNode]
    refine .withValue run .loop position _ fun v => ?_
    refine (env.simulation_moved f included).rounds (fun run _ hrun => ?_) target v.members.length 0 v.members rfl
    exact hrun ▸ renderNodes_mapPositions body run
  | .assignment position name e, run => by
    rw [Node.mapPositions, renderNode, renderNode]
    exact .withValue run .assignment position _ fun _ => .refl _

theorem renderNodes_mapPositions : ∀ (content : Content) (run : Run σ),
    Outcome.Moved f (env.renderNodes included content run)
      (env.renderNodes included (Content.mapPositions f content) run)
  | [], run => by
    rw [Content.mapPositions]
    exact .refl _
  | node :: rest, run => by
    rw [Content.mapPositions, renderNodes, renderNodes]
    exact (renderNode_mapPositions node run).andThen fun run => renderNodes_mapPositions rest run

theorem renderBranches_mapPositions (position : Position) {otherwise otherwise' : Run σ → Outcome σ}
    (hotherwise : ∀ run, Outcome.Moved f (otherwise run) (otherwise' run)) :
    ∀ (branches : List (Expr × Content)) (run : Run σ),
      Outcome.Moved f (env.renderBranches included position otherwise branches run)
        (env.renderBranches included (f position) otherwise' (Content.mapPositionsOfBranches f branches) run)
  | [], run => by
    rw [Content.mapPositionsOfBranches, renderBranches, renderBranches]
    exact hotherwise run
  | (condition, content) :: rest, run => by
    rw [Content.mapPositionsOfBranches, renderBranches, renderBranches]
    refine .withValue run .conditional position _ fun v => ?_
    split
    · exact renderNodes_mapPositions content run
    · exact renderBranches_mapPositions position hotherwise rest run

end

theorem renderContent_mapPositions (content : Content) (run : Run σ) :
    Outcome.Moved f (env.renderContent content run) (env.renderContent (Content.mapPositions f content) run) := by
  rw [renderContent_eq, renderContent_eq]
  exact env.renderNodes_mapPositions f _ content run

/-! ## What is written -/

/-- A sink without limit takes what is written behind what it holds. -/
theorem written_behind (content : Content) (run : Run) (hroom : run.sink.room = none) :
    (env.renderContent content run).run.sink.room = none ∧
      (env.renderContent content run).run.sink.written =
        run.sink.written ++ (env.renderContent content { run with sink := ({} : Sink) }).run.sink.written := by
  obtain ⟨scope, ⟨written, room⟩⟩ := run
  obtain rfl : room = none := hroom
  obtain ⟨transcript, htranscript⟩ := env.renderContent_transcribed content scope
  have hrun (sink : Sink) := (transcript.replay_sink sink).1
  simp only [htranscript, hrun, Sink.write, ByteArray.empty_append]
  exact ⟨trivial, trivial⟩

end Environment

end TemplateEngine
