/-
  TemplateEngine.Proofs.Rendering.Failures — where a failure comes from.

  A node ends a run by itself (`Raises`), or a content that it starts to render does.

  Proved, for every writer, environment and content:
  - `failure_renderNode_iff`: these are all the ways for a node to fail.
  - `failure_iff`: a run fails with the error that some node raises, one that rendering
    comes to in a call inside the run, behind nodes that did not fail.
-/

import Mathlib.Logic.Relation
import TemplateEngine.Proofs.Rendering.Calls

namespace TemplateEngine

variable {σ : Type}

/-! ## Failures of single things -/

/-- The conditions of the branches do not hold, up to one that cannot be evaluated. -/
inductive Breaks (env : Environment) (scope : Scope) (cause : CalculateError) :
    List (Expr × Content) → Prop
  | here {condition : Expr} {content : Content} {rest : List (Expr × Content)} :
      env.evaluate scope condition = .error cause → Breaks env scope cause ((condition, content) :: rest)
  | next {condition : Expr} {content : Content} {rest : List (Expr × Content)} {v : Value} :
      env.evaluate scope condition = .ok v → v.isTruthy = false → Breaks env scope cause rest →
        Breaks env scope cause ((condition, content) :: rest)

theorem Outcome.failure_andThen_iff {o : Outcome σ} {next : Run σ → Outcome σ} {e : RenderError} :
    (o.andThen next).failure = some e ↔
      o.failure = some e ∨ o = { run := o.run } ∧ (next o.run).failure = some e := by
  obtain ⟨run, failure⟩ := o
  cases failure <;> simp [andThen]

theorem Run.failure_withValue_iff {run : Run σ} {directive : Directive} {position : Position}
    {calculation : Calculation} {next : Value → Outcome σ} {e : RenderError} :
    (run.withValue directive position calculation next).failure = some e ↔
      (∃ v, calculation = .ok v ∧ (next v).failure = some e) ∨
        ∃ cause, calculation = .error cause ∧ e = .calculate directive position cause := by
  cases calculation <;> simp [withValue, fail, eq_comm]

theorem failure_rounds_iff {target : Target} {length : Nat} {body : Run σ → Outcome σ} {index : Nat}
    {members : List (Value × Value)} {run : Run σ} {e : RenderError} :
    (Run.rounds target length body index members run).failure = some e ↔
      ∃ start, StartsRound target length body index members run start ∧ (body start).failure = some e := by
  induction members generalizing index run with
  | nil => exact ⟨nofun, nofun⟩
  | cons member rest ih =>
    rw [Run.rounds, Outcome.failure_andThen_iff, ih]
    constructor
    · rintro (h | ⟨hround, start, hstart, h⟩)
      · exact ⟨_, .here, h⟩
      · exact ⟨start, .later hround hstart, h⟩
    · rintro ⟨start, hstart, h⟩
      cases hstart with
      | here => exact .inl h
      | later hround hstart =>
        rw [hround]
        exact .inr ⟨rfl, start, hstart, h⟩

variable [Writer σ]

theorem Run.eq_sinkFull_of_write {run : Run σ} {text : String} {e : RenderError}
    (h : (run.write text).failure = some e) : e = .sinkFull := by
  simp only [Run.write] at h
  split at h
  · cases h
  · exact (Option.some.inj h).symm

theorem Run.eq_sinkFull_of_writeEach {run : Run σ} {texts : List String} {e : RenderError}
    (h : (run.writeEach texts).failure = some e) : e = .sinkFull := by
  induction texts generalizing run with
  | nil => cases h
  | cons text rest ih =>
    rw [Run.writeEach, Outcome.failure_andThen_iff] at h
    rcases h with hfirst | ⟨-, hrest⟩
    · exact eq_sinkFull_of_write hfirst
    · exact ih hrest

/-! ## Failures of nodes -/

/-- The node itself, and no content that it starts to render, ends the run with a failure. -/
inductive Raises (env : Environment) (run : Run σ) : Node → RenderError → Prop
  | text {text : String} {e : RenderError} :
      (run.write text).failure = some e → Raises env run (.text text) e
  | output {position : Position} {x : Expr} {v : Value} {e : RenderError} :
      env.evaluate run.scope x = .ok v → (run.writeEach v.pieces).failure = some e →
        Raises env run (.output position x) e
  | outputValue {position : Position} {x : Expr} {cause : CalculateError} :
      env.evaluate run.scope x = .error cause →
        Raises env run (.output position x) (.calculate .output position cause)
  | condition {position : Position} {branches : List (Expr × Content)} {otherwise : Option Content}
      {cause : CalculateError} : Breaks env run.scope cause branches →
        Raises env run (.conditional position branches otherwise) (.calculate .conditional position cause)
  | collection {position : Position} {target : Target} {collection : Expr} {filters : List Expr}
      {body : Content} {cause : CalculateError} :
      env.evaluate run.scope (.pipe collection filters) = .error cause →
        Raises env run (.loop position target collection filters body) (.calculate .loop position cause)
  | assignment {position : Position} {name : String} {x : Expr} {cause : CalculateError} :
      env.evaluate run.scope x = .error cause →
        Raises env run (.assignment position name x) (.calculate .assignment position cause)
  | tooDeep {position : Position} {name : String} :
      env.config.maxIncludeDepth ≤ run.scope.includeDepth →
        Raises env run (.inclusion position name) (.recursiveInclusion name env.config.maxIncludeDepth)
  | uncompiled {position : Position} {name : String} {cause : CompileError} :
      run.scope.includeDepth < env.config.maxIncludeDepth → env.compileNamed name = .error cause →
        Raises env run (.inclusion position name) (.inclusion name cause)

namespace Environment

variable (env : Environment)

theorem renderNode_conditional (included : String → Run σ → Outcome σ) (position : Position)
    (branches : List (Expr × Content)) (otherwise : Option Content) (run : Run σ) :
    env.renderNode included (.conditional position branches otherwise) run =
      env.renderBranches included position (env.renderNodes included (otherwise.getD [])) branches run := by
  cases otherwise with
  | none =>
    have hnil : env.renderNodes included [] = fun run => { run } := by
      funext run
      rw [renderNodes]
    rw [renderNode, Option.getD_none, hnil]
  | some content => rw [renderNode, Option.getD_some]

theorem failure_renderBranches_iff {included : String → Run σ → Outcome σ} {position : Position}
    {otherwise : Option Content} (branches : List (Expr × Content)) (run : Run σ) (e : RenderError) :
    (env.renderBranches included position (env.renderNodes included (otherwise.getD [])) branches
      run).failure = some e ↔
      (∃ content, Chooses env run.scope otherwise branches content ∧
        (env.renderNodes included content run).failure = some e) ∨
      ∃ cause, Breaks env run.scope cause branches ∧ e = .calculate .conditional position cause := by
  induction branches with
  | nil =>
    rw [renderBranches]
    constructor
    · intro h
      cases otherwise with
      | none => rw [Option.getD_none, renderNodes] at h; cases h
      | some content => exact .inl ⟨content, .otherwise rfl, h⟩
    · rintro (⟨content, hchoice, h⟩ | ⟨cause, hbreaks, -⟩)
      · cases hchoice with
        | otherwise ho => subst ho; exact h
      · cases hbreaks
  | cons branch others ih =>
    obtain ⟨condition, content⟩ := branch
    rw [renderBranches, Run.failure_withValue_iff]
    constructor
    · rintro (⟨v, hv, h⟩ | ⟨cause, hcause, he⟩)
      · split at h
        · rename_i htruthy
          exact .inl ⟨content, .branch hv htruthy, h⟩
        · rename_i hfalsy
          have hfalsy : v.isTruthy = false := by simpa using hfalsy
          rcases ih.mp h with ⟨content, hchoice, h⟩ | ⟨cause, hbreaks, he⟩
          · exact .inl ⟨content, .next hv hfalsy hchoice, h⟩
          · exact .inr ⟨cause, .next hv hfalsy hbreaks, he⟩
      · exact .inr ⟨cause, .here hcause, he⟩
    · rintro (⟨content, hchoice, h⟩ | ⟨cause, hbreaks, he⟩)
      · cases hchoice with
        | branch hv htruthy =>
          refine .inl ⟨_, hv, ?_⟩
          rw [if_pos htruthy]
          exact h
        | next hv hfalsy hchoice =>
          refine .inl ⟨_, hv, ?_⟩
          rw [if_neg (by simp [hfalsy])]
          exact ih.mpr (.inl ⟨content, hchoice, h⟩)
      · cases hbreaks with
        | here hcause => exact .inr ⟨cause, hcause, he⟩
        | next hv hfalsy hbreaks =>
          refine .inl ⟨_, hv, ?_⟩
          rw [if_neg (by simp [hfalsy])]
          exact ih.mpr (.inr ⟨cause, hbreaks, he⟩)

/-- An inclusion fails if it is too deep, if the name cannot be compiled, or as its content does. -/
theorem failure_includeNamed_iff (name : String) (run : Run σ) (e : RenderError) :
    (env.includeNamed name run).failure = some e ↔
      (env.config.maxIncludeDepth ≤ run.scope.includeDepth ∧
        e = .recursiveInclusion name env.config.maxIncludeDepth) ∨
      run.scope.includeDepth < env.config.maxIncludeDepth ∧
        ((∃ cause, env.compileNamed name = .error cause ∧ e = .inclusion name cause) ∨
        ∃ content, env.compileNamed name = .ok content ∧
          (env.renderContent content { run with scope := run.scope.enter }).failure = some e) := by
  rw [includeNamed]
  rcases Nat.lt_or_ge run.scope.includeDepth env.config.maxIncludeDepth with hroom | hfull
  · cases hcompiled : env.compileNamed name <;>
      simp [hroom, Nat.not_le_of_lt hroom, Run.fail, Outcome.mapScope, eq_comm]
  · simp [hfull, Nat.not_lt_of_le hfull, Run.fail, eq_comm]

/-- A node fails by itself or by a content that it starts to render. -/
theorem failure_renderNode_iff (node : Node) (run : Run σ) (e : RenderError) :
    (env.renderNode env.includeNamed node run).failure = some e ↔
      Raises env run node e ∨
        ∃ content start, Starts env node run content start ∧ (env.renderContent content start).failure = some e := by
  cases node with
  | text text =>
    rw [renderNode]
    constructor
    · intro h
      exact .inl (.text h)
    · rintro (h | ⟨_, _, h, -⟩)
      · cases h with
        | text h => exact h
      · cases h
  | output position x =>
    rw [renderNode, Run.failure_withValue_iff]
    constructor
    · rintro (⟨v, hv, h⟩ | ⟨cause, hcause, rfl⟩)
      · exact .inl (.output hv h)
      · exact .inl (.outputValue hcause)
    · rintro (h | ⟨_, _, h, -⟩)
      · cases h with
        | output hv h => exact .inl ⟨_, hv, h⟩
        | outputValue hcause => exact .inr ⟨_, hcause, rfl⟩
      · cases h
  | block position name content =>
    rw [renderNode, ← renderContent_eq]
    constructor
    · intro h
      exact .inr ⟨content, run, .block .., h⟩
    · rintro (h | ⟨_, _, h, hfail⟩)
      · cases h
      · cases h with
        | block => exact hfail
  | inclusion position name =>
    rw [renderNode, failure_includeNamed_iff]
    constructor
    · rintro (⟨hfull, rfl⟩ | ⟨hroom, ⟨cause, hcause, rfl⟩ | ⟨content, hcontent, h⟩⟩)
      · exact .inl (.tooDeep hfull)
      · exact .inl (.uncompiled hroom hcause)
      · exact .inr ⟨content, _, .inclusion hroom hcontent, h⟩
    · rintro (h | ⟨_, _, h, hfail⟩)
      · cases h with
        | tooDeep hfull => exact .inl ⟨hfull, rfl⟩
        | uncompiled hroom hcause => exact .inr ⟨hroom, .inl ⟨_, hcause, rfl⟩⟩
      · cases h with
        | inclusion hroom hcontent => exact .inr ⟨hroom, .inr ⟨_, hcontent, hfail⟩⟩
  | conditional position branches otherwise =>
    rw [renderNode_conditional, failure_renderBranches_iff]
    simp only [← renderContent_eq]
    constructor
    · rintro (⟨content, hchoice, h⟩ | ⟨cause, hbreaks, rfl⟩)
      · exact .inr ⟨content, run, .conditional hchoice, h⟩
      · exact .inl (.condition hbreaks)
    · rintro (h | ⟨content, _, h, hfail⟩)
      · cases h with
        | condition hbreaks => exact .inr ⟨_, hbreaks, rfl⟩
      · cases h with
        | conditional hchoice => exact .inl ⟨content, hchoice, hfail⟩
  | loop position target collection filters body =>
    rw [renderNode]
    simp only [← evaluate_pipe, Run.failure_withValue_iff, failure_rounds_iff, renderNodes_includeNamed]
    constructor
    · rintro (⟨v, hv, start, hstart, h⟩ | ⟨cause, hcause, rfl⟩)
      · exact .inr ⟨body, start, .loop hv hstart, h⟩
      · exact .inl (.collection hcause)
    · rintro (h | ⟨_, start, h, hfail⟩)
      · cases h with
        | collection hcause => exact .inr ⟨_, hcause, rfl⟩
      · cases h with
        | loop hv hstart => exact .inl ⟨_, hv, start, hstart, hfail⟩
  | assignment position name x =>
    rw [renderNode, Run.failure_withValue_iff]
    constructor
    · rintro (⟨v, hv, h⟩ | ⟨cause, hcause, rfl⟩)
      · cases h
      · exact .inl (.assignment hcause)
    · rintro (h | ⟨_, _, h, -⟩)
      · cases h with
        | assignment hcause => exact .inr ⟨_, hcause, rfl⟩
      · cases h

end Environment

/-! ## Failures of contents -/

theorem failure_iff_arrives (env : Environment) (content : Content) (run : Run σ) (e : RenderError) :
    (env.renderContent content run).failure = some e ↔
      ∃ node run', Arrives env node content run run' ∧
        (env.renderNode env.includeNamed node run').failure = some e := by
  induction content generalizing run with
  | nil =>
    rw [env.renderContent_nil]
    exact ⟨nofun, nofun⟩
  | cons node rest ih =>
    rw [env.renderContent_cons, Outcome.failure_andThen_iff, ih]
    constructor
    · rintro (h | ⟨hdone, node', run', harrives, h⟩)
      · exact ⟨node, run, .here, h⟩
      · exact ⟨node', run', .later hdone harrives, h⟩
    · rintro ⟨node', run', harrives, h⟩
      cases harrives with
      | here => exact .inl h
      | later hdone harrives =>
        rw [hdone]
        exact .inr ⟨rfl, node', run', harrives, h⟩

theorem failure_iff (env : Environment) (start : Content × Run σ) (e : RenderError) :
    (env.renderContent start.1 start.2).failure = some e ↔
      ∃ call node run, Relation.ReflTransGen (Calls env) start call ∧
        Arrives env node call.1 call.2 run ∧ Raises env run node e := by
  constructor
  · induction start using (wellFounded_calls (σ := σ) env).induction with
    | _ start ih =>
      intro h
      obtain ⟨node, run, harrives, h⟩ := (failure_iff_arrives env start.1 start.2 e).mp h
      rcases (env.failure_renderNode_iff node run e).mp h with hraises | ⟨content, inner, hstarts, h⟩
      · exact ⟨start, node, run, .refl, harrives, hraises⟩
      · have hcall : Calls env start (content, inner) := ⟨node, run, harrives, hstarts⟩
        obtain ⟨call, node', run', hcalls, hfound⟩ := ih (content, inner) hcall h
        exact ⟨call, node', run', .head hcall hcalls, hfound⟩
  · rintro ⟨call, node, run, hcalls, harrives, hraises⟩
    induction hcalls using Relation.ReflTransGen.head_induction_on with
    | refl =>
      exact (failure_iff_arrives env call.1 call.2 e).mpr
        ⟨node, run, harrives, (env.failure_renderNode_iff node run e).mpr (.inl hraises)⟩
    | @head start inner hcall _ ih =>
      obtain ⟨node', run', harrives', hstarts⟩ := hcall
      exact (failure_iff_arrives env start.1 start.2 e).mpr ⟨node', run', harrives',
        (env.failure_renderNode_iff node' run' e).mpr (.inr ⟨inner.1, inner.2, hstarts, ih⟩)⟩

end TemplateEngine
