/-
  TemplateEngine.Proofs.Evaluation.Fallbacks — what evaluation does with trees of no shape.

  Evaluating covers trees that no text is read as: a chain without operands, a stage that is
  no function, a step that names no part. `evaluateWith` evaluates with other answers (`Arms`)
  to these three.

  Proved:
  - `evaluateWith_of_wellFormed`: on a well-formed expression the answers make no difference,
    so that none of them is ever asked for.
-/

import TemplateEngine.Evaluate
import TemplateEngine.Proofs.Expression.WellFormed

namespace TemplateEngine

/-- Answers to trees of no shape. -/
structure Arms where
  /-- The value of a chain without operands. -/
  chain : Scope → Calculation
  /-- What a stage makes of a value that is no function. -/
  stage : Scope → Value → Expr → Calculation
  /-- Where a step leads that names no part of a value. -/
  step : Scope → Value → Expr → Calculation

namespace Environment

mutual

/-- Evaluates with these answers to trees of no shape. -/
def evaluateWith (arms : Arms) (env : Environment) (scope : Scope) : Expr → Calculation
  | .literal l => .ok l.value
  | .list items => do return .list (← evaluateAllWith arms env scope items)
  | .intRange first last => intRange env.config.maxRangeLength first last
  | .charRange first last => charRange env.config.maxRangeLength first last
  | .map entries => do return .map (Table.ofEntries (← evaluateEntriesWith arms env scope entries))
  | .var name => readVariable env scope name
  | .call name args => do call env name (← evaluateAllWith arms env scope args)
  | .select base steps => do followWith arms env scope (← evaluateWith arms env scope base) steps
  | .entry name key => do (← readVariable env scope name).entryAt key
  | .pipe base stages => do passThroughWith arms env scope (← evaluateWith arms env scope base) stages
  | .chain [] _ => arms.chain scope
  | .chain (first :: more) operators => do
    continueChainWith arms env scope (← evaluateWith arms env scope first) more operators
  | .not operand => do return .bool (!(← evaluateWith arms env scope operand).isTruthy)
  | .ternary condition yes no => do
    if (← evaluateWith arms env scope condition).isTruthy then evaluateWith arms env scope yes
    else evaluateWith arms env scope no

def evaluateAllWith (arms : Arms) (env : Environment) (scope : Scope) :
    List Expr → Except CalculateError (List Value)
  | [] => .ok []
  | e :: es => do
    let v ← evaluateWith arms env scope e
    return v :: (← evaluateAllWith arms env scope es)

def evaluateEntriesWith (arms : Arms) (env : Environment) (scope : Scope) :
    List (String × Expr) → Except CalculateError (List (String × Value))
  | [] => .ok []
  | (key, e) :: rest => do
    let v ← evaluateWith arms env scope e
    return (key, v) :: (← evaluateEntriesWith arms env scope rest)

def continueChainWith (arms : Arms) (env : Environment) (scope : Scope) (left : Value) :
    List Expr → List Operator → Calculation
  | e :: es, op :: ops => do
    let right ← evaluateWith arms env scope e
    continueChainWith arms env scope (← op.apply env.patterns left right) es ops
  | _, _ => .ok left

def applyStageWith (arms : Arms) (env : Environment) (scope : Scope) (v : Value) : Expr → Calculation
  | .call name args => do call env name (v :: (← evaluateAllWith arms env scope args))
  | .var name => call env name [v]
  | other => arms.stage scope v other

def passThroughWith (arms : Arms) (env : Environment) (scope : Scope) (v : Value) :
    List Expr → Calculation
  | [] => .ok v
  | stage :: more => do passThroughWith arms env scope (← applyStageWith arms env scope v stage) more

def followWith (arms : Arms) (env : Environment) (scope : Scope) (v : Value) : List Expr → Calculation
  | [] => .ok v
  | step :: more => do followWith arms env scope (← followStepWith arms env scope v step) more

def followStepWith (arms : Arms) (env : Environment) (scope : Scope) (v : Value) : Expr → Calculation
  | .var name => v.property name
  | .call name args => do call env name (v :: (← evaluateAllWith arms env scope args))
  | .entry name key => do (← v.property name).entryAt key
  | other => arms.step scope v other

end

/-! ## Where the answers make no difference -/

variable {arms : Arms} {env : Environment} {scope : Scope}

mutual

theorem evaluateWith_eq : ∀ e : Expr, e.WellFormed →
    env.evaluateWith arms scope e = env.evaluate scope e
  | .literal l, _ => by rw [evaluateWith, evaluate]
  | .list items, h => by
    rw [evaluateWith, evaluate, evaluateAllWith_eq items (match h with | .list hitems => hitems)]
  | .intRange first last, _ => by rw [evaluateWith, evaluate]
  | .charRange first last, _ => by rw [evaluateWith, evaluate]
  | .map entries, h => by
    rw [evaluateWith, evaluate, evaluateEntriesWith_eq entries (match h with | .map hentries => hentries)]
  | .var name, _ => by rw [evaluateWith, evaluate]
  | .call name args, h => by
    rw [evaluateWith, evaluate, evaluateAllWith_eq args (match h with | .call _ hargs => hargs)]
  | .select base steps, h => by
    rw [evaluateWith, evaluate, evaluateWith_eq base (match h with | .select hbase _ _ _ => hbase)]
    refine congrArg _ (funext fun v => ?_)
    exact followWith_eq steps v (match h with | .select _ _ hsteps hstep => fun e he => ⟨hsteps e he, hstep e he⟩)
  | .entry name key, _ => by rw [evaluateWith, evaluate]
  | .pipe base stages, h => by
    rw [evaluateWith, evaluate, evaluateWith_eq base (match h with | .pipe hbase _ _ _ => hbase)]
    refine congrArg _ (funext fun v => ?_)
    exact passThroughWith_eq stages v
      (match h with | .pipe _ _ hstages hstage => fun e he => ⟨hstages e he, hstage e he⟩)
  | .chain [] operators, h => by
    cases h with
    | chain l _ hlen _ _ => exact absurd hlen (by decide)
  | .chain (first :: more) operators, h => by
    have hoperands : (∀ e ∈ first :: more, e.WellFormed) := match h with | .chain _ he _ _ _ => he
    rw [evaluateWith, evaluate, evaluateChain,
      evaluateWith_eq first (hoperands first (List.mem_cons_self ..))]
    refine congrArg _ (funext fun v => ?_)
    exact continueChainWith_eq more operators v
      fun e hmem => hoperands e (List.mem_cons_of_mem _ hmem)
  | .not operand, h => by
    rw [evaluateWith, evaluate, evaluateWith_eq operand (match h with | .not he => he)]
  | .ternary condition yes no, h => by
    rw [evaluateWith, evaluate, evaluateWith_eq condition (match h with | .ternary he _ _ => he),
      evaluateWith_eq yes (match h with | .ternary _ he _ => he),
      evaluateWith_eq no (match h with | .ternary _ _ he => he)]
termination_by e => (sizeOf e, 0)

theorem evaluateAllWith_eq : ∀ es : List Expr, (∀ e ∈ es, e.WellFormed) →
    env.evaluateAllWith arms scope es = env.evaluateAll scope es
  | [], _ => by rw [evaluateAllWith, evaluateAll]
  | e :: es, h => by
    rw [evaluateAllWith, evaluateAll, evaluateWith_eq e (h e (List.mem_cons_self ..)),
      evaluateAllWith_eq es fun e hmem => h e (List.mem_cons_of_mem _ hmem)]
termination_by es => (sizeOf es, 0)

theorem evaluateEntriesWith_eq : ∀ entries : List (String × Expr),
    (∀ m ∈ entries, m.2.WellFormed) →
      env.evaluateEntriesWith arms scope entries = env.evaluateEntries scope entries
  | [], _ => by rw [evaluateEntriesWith, evaluateEntries]
  | (key, e) :: rest, h => by
    rw [evaluateEntriesWith, evaluateEntries,
      evaluateWith_eq e (h (key, e) (List.mem_cons_self ..)),
      evaluateEntriesWith_eq rest fun m hmem => h m (List.mem_cons_of_mem _ hmem)]
termination_by entries => (sizeOf entries, 0)

theorem continueChainWith_eq : ∀ (es : List Expr) (operators : List Operator) (left : Value),
    (∀ e ∈ es, e.WellFormed) →
      env.continueChainWith arms scope left es operators = env.continueChain scope left es operators
  | e :: es, op :: ops, left, h => by
    rw [continueChainWith, continueChain, evaluateWith_eq e (h e (List.mem_cons_self ..))]
    refine congrArg _ (funext fun right => congrArg _ (funext fun v => ?_))
    exact continueChainWith_eq es ops v fun e hmem => h e (List.mem_cons_of_mem _ hmem)
  | [], ops, left, _ => by
    rw [continueChainWith, continueChain]
    all_goals nofun
  | e :: es, [], left, _ => by
    rw [continueChainWith, continueChain]
    all_goals nofun
termination_by es => (sizeOf es, 0)

theorem passThroughWith_eq : ∀ (stages : List Expr) (v : Value),
    (∀ e ∈ stages, e.WellFormed ∧ e.isStage = true) →
      env.passThroughWith arms scope v stages = env.passThrough scope v stages
  | [], v, _ => by rw [passThroughWith, passThrough]
  | stage :: more, v, h => by
    rw [passThroughWith, passThrough,
      applyStageWith_eq stage v (h stage (List.mem_cons_self ..))]
    refine congrArg _ (funext fun v => ?_)
    exact passThroughWith_eq more v fun e hmem => h e (List.mem_cons_of_mem _ hmem)
termination_by stages => (sizeOf stages, 0)

theorem applyStageWith_eq (stage : Expr) (v : Value)
    (h : (stage.WellFormed ∧ stage.isStage = true)) :
    env.applyStageWith arms scope v stage = env.applyStage scope v stage := by
  cases stage with
  | call name args =>
    rw [applyStageWith, applyStage, evaluateAllWith_eq args (match h with | ⟨.call _ hargs, _⟩ => hargs)]
  | var name => rw [applyStageWith, applyStage]
  | _ =>
    rw [applyStageWith, applyStage]
    · cases h.2
    all_goals nofun
termination_by (sizeOf stage, 0)

theorem followWith_eq : ∀ (steps : List Expr) (v : Value),
    (∀ e ∈ steps, e.WellFormed ∧ e.isStep = true) →
      env.followWith arms scope v steps = env.follow scope v steps
  | [], v, _ => by rw [followWith, follow]
  | step :: more, v, h => by
    rw [followWith, follow, followStepWith_eq step v (h step (List.mem_cons_self ..))]
    refine congrArg _ (funext fun v => ?_)
    exact followWith_eq more v fun e hmem => h e (List.mem_cons_of_mem _ hmem)
termination_by steps => (sizeOf steps, 0)

theorem followStepWith_eq (step : Expr) (v : Value)
    (h : (step.WellFormed ∧ step.isStep = true)) :
    env.followStepWith arms scope v step = env.followStep scope v step := by
  cases step with
  | var name => rw [followStepWith, followStep]
  | entry name key => rw [followStepWith, followStep]
  | call name args =>
    rw [followStepWith, followStep, evaluateAllWith_eq args (match h with | ⟨.call _ hargs, _⟩ => hargs)]
  | _ =>
    rw [followStepWith, followStep]
    · cases h.2
    all_goals nofun
termination_by (sizeOf step, 0)

end

variable (env scope arms)

theorem evaluateWith_of_wellFormed {e : Expr} (h : e.WellFormed) :
    env.evaluateWith arms scope e = env.evaluate scope e := evaluateWith_eq e h

theorem passThroughWith_of_wellFormed {stages : List Expr}
    (h : ∀ e ∈ stages, e.WellFormed ∧ e.isStage = true) (v : Value) :
    env.passThroughWith arms scope v stages = env.passThrough scope v stages :=
  passThroughWith_eq stages v h

end Environment

end TemplateEngine
