/-
  TemplateEngine.Proofs.Rendering.Pipelines — the ways to hand a value to a function.

  A value comes to a function as what a pipe puts into a stage, as what a call step follows,
  as the collection that a loop filters, or as the first argument of a call. Each of them
  computes the value first, then the arguments of the function's own from the left, and
  then calls; so the first thing that fails is the same, too.

  Proved, in every environment and scope and for any number of stages:
  - `evaluate_callOn`: one stage is the call with its input in front.
  - `evaluate_nestedCalls`: so the calls of all stages, one inside the other, are what
    passing the value through them is.
  - `pipeline_eq_calls`: pipes, call steps and filters compute what those calls compute.
-/

import TemplateEngine.Proofs.Rendering.Simulation

namespace TemplateEngine

/-- A function that a value is passed to: by its bare name, or with arguments of its own. -/
inductive Stage where
  | bare (name : String)
  | call (name : String) (args : List Expr)

namespace Stage

def name : Stage → String
  | bare name => name
  | call name _ => name

def args : Stage → List Expr
  | bare _ => []
  | call _ args => args

/-- The stage as pipes and filters have it. -/
def written : Stage → Expr
  | bare name => .var name
  | call name args => .call name args

/-- The stage as a step into a value. A bare name would be a property there, so this one is
    a call in any case. -/
def step (s : Stage) : Expr := .call s.name s.args

/-- The call of the stage's function on an input and the stage's own arguments. -/
def callOn (s : Stage) (input : Expr) : Expr := .call s.name (input :: s.args)

end Stage

/-- The calls of all stages, that of the first one innermost, around the base. -/
def nestedCalls (base : Expr) (stages : List Stage) : Expr :=
  stages.foldl (fun input s => s.callOn input) base

namespace Environment

variable (env : Environment) (scope : Scope)

/-! ## One stage -/

theorem applyStage_written (s : Stage) (v : Value) :
    env.applyStage scope v s.written = (do env.call s.name (v :: (← env.evaluateAll scope s.args))) := by
  cases s with
  | bare name =>
    show env.applyStage scope v (.var name) = (do env.call name (v :: (← env.evaluateAll scope [])))
    rw [applyStage, evaluateAll]
    rfl
  | call name args =>
    show env.applyStage scope v (.call name args) = _
    rw [applyStage]
    rfl

theorem followStep_step (s : Stage) (v : Value) :
    env.followStep scope v s.step = env.applyStage scope v s.written := by
  rw [applyStage_written]
  show env.followStep scope v (.call s.name s.args) = _
  rw [followStep]

theorem evaluate_callOn (s : Stage) (input : Expr) :
    env.evaluate scope (s.callOn input) =
      (do env.applyStage scope (← env.evaluate scope input) s.written) := by
  show env.evaluate scope (.call s.name (input :: s.args)) = _
  simp only [evaluate, evaluateAll, applyStage_written, bind_assoc, pure_bind]

/-! ## All stages -/

theorem follow_steps (stages : List Stage) (v : Value) :
    env.follow scope v (stages.map Stage.step) = env.passThrough scope v (stages.map Stage.written) := by
  induction stages generalizing v with
  | nil => rw [List.map_nil, List.map_nil, follow, passThrough]
  | cons s rest ih =>
    rw [List.map_cons, List.map_cons, follow, passThrough, followStep_step]
    simp only [ih]

theorem evaluate_nestedCalls (base : Expr) (stages : List Stage) :
    env.evaluate scope (nestedCalls base stages) =
      (do env.passThrough scope (← env.evaluate scope base) (stages.map Stage.written)) := by
  -- the first stage becomes part of the base, so the base is any expression
  induction stages generalizing base with
  | nil =>
    simp only [List.map_nil, passThrough]
    exact (bind_pure _).symm
  | cons s rest ih =>
    have hrest : env.evaluate scope (nestedCalls base (s :: rest)) =
        (do env.passThrough scope (← env.evaluate scope (s.callOn base)) (rest.map Stage.written)) :=
      ih (s.callOn base)
    rw [hrest, evaluate_callOn, bind_assoc]
    simp only [List.map_cons, passThrough]

/-- A pipe computes what the calls of its stages compute, each on the one before, and so do
    the same functions as steps into the base: the value is the same, or the failure. And a
    loop does the same with its filters as with a pipe for its collection, whatever is
    included inside it. -/
theorem pipeline_eq_calls (base : Expr) (stages : List Stage) :
    let calls := nestedCalls base stages
    let pipe : Expr := .pipe base (stages.map Stage.written)
    env.evaluate scope pipe = env.evaluate scope calls ∧
    env.evaluate scope (.select base (stages.map Stage.step)) = env.evaluate scope calls ∧
    ∀ (σ : Type) [Writer σ] (included : String → Run σ → Outcome σ) (position : Position)
      (target : Target) (body : Content) (run : Run σ),
      env.renderNode included (.loop position target base (stages.map Stage.written) body) run =
        env.renderNode included (.loop position target pipe [] body) run := by
  intro calls pipe
  have hpipe (scope : Scope) : env.evaluate scope pipe =
      (do env.passThrough scope (← env.evaluate scope base) (stages.map Stage.written)) :=
    env.evaluate_pipe scope base _
  refine ⟨?_, ?_, ?_⟩
  · rw [hpipe, evaluate_nestedCalls]
  · rw [evaluate, evaluate_nestedCalls]
    simp only [follow_steps]
  · intro σ _ included position target body run
    -- with no filters the value of the pipe is passed on as it is
    have hunfiltered : (do env.passThrough run.scope (← env.evaluate run.scope pipe) []) =
        env.evaluate run.scope pipe := by
      simp only [passThrough]
      exact bind_pure _
    rw [renderNode, renderNode, hunfiltered, hpipe]

end Environment

end TemplateEngine
