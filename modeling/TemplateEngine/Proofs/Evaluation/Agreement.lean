/-
  TemplateEngine.Proofs.Evaluation.Agreement — one expression in two environments.

  An environment comes into an expression's value by the variables the expression reads
  (`Expr.Reads`), the functions it calls, the patterns it compiles and the limit on ranges,
  and by nothing else. What it means for two calculations to agree is left open: to be equal,
  or to be equal unless the first one fails.

  Proved:
  - `Agreement.evaluate`: expressions agree, if the variables that they read do.
-/

import TemplateEngine.Evaluate

namespace TemplateEngine

/-- Evaluating the expression may read the variable. Steps by name into a value and stages
    that are a function's bare name read none. -/
inductive Expr.Reads (name : String) : Expr → Prop
  | item {items : List Expr} {e : Expr} : e ∈ items → Reads name e → Reads name (.list items)
  | value {entries : List (String × Expr)} {key : String} {e : Expr} :
      (key, e) ∈ entries → Reads name e → Reads name (.map entries)
  | var : Reads name (.var name)
  | argument {function : String} {args : List Expr} {e : Expr} :
      e ∈ args → Reads name e → Reads name (.call function args)
  | base {base : Expr} {steps : List Expr} : Reads name base → Reads name (.select base steps)
  | step {base step : Expr} {steps : List Expr} : step ∈ steps → (∀ other, step ≠ .var other) →
      (∀ other key, step ≠ .entry other key) → Reads name step → Reads name (.select base steps)
  | entry (key : String) : Reads name (.entry name key)
  | source {base : Expr} {stages : List Expr} : Reads name base → Reads name (.pipe base stages)
  | stage {base : Expr} {function : String} {args stages : List Expr} :
      .call function args ∈ stages → Reads name (.call function args) → Reads name (.pipe base stages)
  | operand {operands : List Expr} {operators : List Operator} {e : Expr} :
      e ∈ operands → Reads name e → Reads name (.chain operands operators)
  | not {operand : Expr} : Reads name operand → Reads name (.not operand)
  | condition {condition yes no : Expr} : Reads name condition → Reads name (.ternary condition yes no)
  | yes {condition yes no : Expr} : Reads name yes → Reads name (.ternary condition yes no)
  | no {condition yes no : Expr} : Reads name no → Reads name (.ternary condition yes no)

/-- Functions, operators and ranges agree, in the two environments, and calculations agree
    whose steps do. -/
structure Agreement (R : ∀ {α : Type}, Except CalculateError α → Except CalculateError α → Prop)
    (env env' : Environment) : Prop where
  refl : ∀ {α : Type} (x : Except CalculateError α), R x x
  bind : ∀ {α β : Type} {x x' : Except CalculateError α} {f f' : α → Except CalculateError β},
    R x x' → (∀ a, R (f a) (f' a)) → R (x >>= f) (x' >>= f')
  call : ∀ (name : String) (args : List Value), R (env.call name args) (env'.call name args)
  apply : ∀ (op : Operator) (left right : Value),
    R (op.apply env.patterns left right) (op.apply env'.patterns left right)
  range : ∀ (first last : Int) (firstText lastText : String),
    R (checkRange env.config.maxRangeLength first last firstText lastText)
      (checkRange env'.config.maxRangeLength first last firstText lastText)

namespace Agreement

variable {R : ∀ {α : Type}, Except CalculateError α → Except CalculateError α → Prop}
  {env env' : Environment} (h : Agreement @R env env') (scope scope' : Scope)

/-- The variables of the expression agree. -/
abbrev OnReads (R : ∀ {α : Type}, Except CalculateError α → Except CalculateError α → Prop)
    (env env' : Environment) (scope scope' : Scope) (e : Expr) : Prop :=
  ∀ name, e.Reads name → R (env.readVariable scope name) (env'.readVariable scope' name)

include h

mutual

theorem evaluate : ∀ e : Expr, OnReads @R env env' scope scope' e →
    R (env.evaluate scope e) (env'.evaluate scope' e)
  | .literal l, _ => by
    rw [Environment.evaluate, Environment.evaluate]
    exact h.refl _
  | .list items, hreads => by
    rw [Environment.evaluate, Environment.evaluate]
    exact h.bind (evaluateAll items fun e he name hname => hreads name (.item he hname)) fun _ => h.refl _
  | .intRange first last, _ => by
    rw [Environment.evaluate, Environment.evaluate]
    exact h.bind (h.range ..) fun _ => h.refl _
  | .charRange first last, _ => by
    rw [Environment.evaluate, Environment.evaluate]
    exact h.bind (h.range ..) fun _ => h.refl _
  | .map entries, hreads => by
    rw [Environment.evaluate, Environment.evaluate]
    exact h.bind (evaluateEntries entries fun key e he name hname => hreads name (.value he hname))
      fun _ => h.refl _
  | .var name, hreads => by
    rw [Environment.evaluate, Environment.evaluate]
    exact hreads name .var
  | .call function args, hreads => by
    rw [Environment.evaluate, Environment.evaluate]
    exact h.bind (evaluateAll args fun e he name hname => hreads name (.argument he hname))
      fun _ => h.call ..
  | .select base steps, hreads => by
    rw [Environment.evaluate, Environment.evaluate]
    refine h.bind (evaluate base fun name hname => hreads name (.base hname)) fun v => ?_
    exact follow steps v fun step hstep hvar hentry name hname =>
      hreads name (.step hstep hvar hentry hname)
  | .entry name key, hreads => by
    rw [Environment.evaluate, Environment.evaluate]
    exact h.bind (hreads name (.entry key)) fun _ => h.refl _
  | .pipe base stages, hreads => by
    rw [Environment.evaluate, Environment.evaluate]
    refine h.bind (evaluate base fun name hname => hreads name (.source hname)) fun v => ?_
    exact passThrough stages v fun function args hstage name hname => hreads name (.stage hstage hname)
  | .chain operands operators, hreads => by
    rw [Environment.evaluate, Environment.evaluate]
    have hoperands (e : Expr) (he : e ∈ operands) : OnReads @R env env' scope scope' e :=
      fun name hname => hreads name (.operand he hname)
    cases operands with
    | nil =>
      rw [Environment.evaluateChain, Environment.evaluateChain]
      exact h.refl _
    | cons first more =>
      rw [Environment.evaluateChain, Environment.evaluateChain]
      refine h.bind (evaluate first (hoperands first (List.mem_cons_self ..))) fun v => ?_
      exact continueChain more operators v fun e he => hoperands e (List.mem_cons_of_mem _ he)
  | .not operand, hreads => by
    rw [Environment.evaluate, Environment.evaluate]
    exact h.bind (evaluate operand fun name hname => hreads name (.not hname)) fun _ => h.refl _
  | .ternary condition yes no, hreads => by
    rw [Environment.evaluate, Environment.evaluate]
    refine h.bind (evaluate condition fun name hname => hreads name (.condition hname)) fun v => ?_
    split
    · exact evaluate yes fun name hname => hreads name (.yes hname)
    · exact evaluate no fun name hname => hreads name (.no hname)
termination_by e => (sizeOf e, 0)

theorem evaluateAll : ∀ es : List Expr, (∀ e ∈ es, OnReads @R env env' scope scope' e) →
    R (env.evaluateAll scope es) (env'.evaluateAll scope' es)
  | [], _ => by
    rw [Environment.evaluateAll, Environment.evaluateAll]
    exact h.refl _
  | e :: es, hreads => by
    rw [Environment.evaluateAll, Environment.evaluateAll]
    refine h.bind (evaluate e (hreads e (List.mem_cons_self ..))) fun v => ?_
    exact h.bind (evaluateAll es fun e he => hreads e (List.mem_cons_of_mem _ he)) fun _ => h.refl _
termination_by es => (sizeOf es, 0)

theorem evaluateEntries : ∀ entries : List (String × Expr),
    (∀ key e, (key, e) ∈ entries → OnReads @R env env' scope scope' e) →
      R (env.evaluateEntries scope entries) (env'.evaluateEntries scope' entries)
  | [], _ => by
    rw [Environment.evaluateEntries, Environment.evaluateEntries]
    exact h.refl _
  | (key, e) :: rest, hreads => by
    rw [Environment.evaluateEntries, Environment.evaluateEntries]
    refine h.bind (evaluate e (hreads key e (List.mem_cons_self ..))) fun v => ?_
    exact h.bind (evaluateEntries rest fun key e he => hreads key e (List.mem_cons_of_mem _ he))
      fun _ => h.refl _
termination_by entries => (sizeOf entries, 0)

theorem continueChain : ∀ (es : List Expr) (operators : List Operator) (left : Value),
    (∀ e ∈ es, OnReads @R env env' scope scope' e) →
      R (env.continueChain scope left es operators) (env'.continueChain scope' left es operators)
  | e :: es, op :: ops, left, hreads => by
    rw [Environment.continueChain, Environment.continueChain]
    refine h.bind (evaluate e (hreads e (List.mem_cons_self ..))) fun right => ?_
    refine h.bind (h.apply op left right) fun v => ?_
    exact continueChain es ops v fun e he => hreads e (List.mem_cons_of_mem _ he)
  | [], ops, left, _ => by
    rw [Environment.continueChain, Environment.continueChain]
    · exact h.refl _
    · nofun
    · nofun
  | e :: es, [], left, _ => by
    rw [Environment.continueChain, Environment.continueChain]
    · exact h.refl _
    · nofun
    · nofun
termination_by es => (sizeOf es, 0)

theorem passThrough : ∀ (stages : List Expr) (v : Value),
    (∀ function args, .call function args ∈ stages → OnReads @R env env' scope scope' (.call function args)) →
      R (env.passThrough scope v stages) (env'.passThrough scope' v stages)
  | [], v, _ => by
    rw [Environment.passThrough, Environment.passThrough]
    exact h.refl _
  | stage :: more, v, hreads => by
    rw [Environment.passThrough, Environment.passThrough]
    refine h.bind ?_ fun v => passThrough more v fun function args hstage =>
      hreads function args (List.mem_cons_of_mem _ hstage)
    exact applyStage stage v fun function args hstage => hreads function args (hstage ▸ List.mem_cons_self ..)
termination_by stages => (sizeOf stages, 0)

theorem applyStage (stage : Expr) (v : Value)
    (hreads : ∀ function args, .call function args = stage →
      OnReads @R env env' scope scope' (.call function args)) :
    R (env.applyStage scope v stage) (env'.applyStage scope' v stage) := by
  cases stage with
  | call function args =>
    rw [Environment.applyStage, Environment.applyStage]
    refine h.bind (evaluateAll args fun e he name hname => ?_) fun _ => h.call ..
    exact hreads function args rfl name (.argument he hname)
  | var name =>
    rw [Environment.applyStage, Environment.applyStage]
    exact h.call ..
  | _ =>
    rw [Environment.applyStage, Environment.applyStage]
    · exact h.refl _
    all_goals nofun
termination_by (sizeOf stage, 0)

theorem follow : ∀ (steps : List Expr) (v : Value),
    (∀ step ∈ steps, (∀ other, step ≠ .var other) → (∀ other key, step ≠ .entry other key) →
      OnReads @R env env' scope scope' step) →
      R (env.follow scope v steps) (env'.follow scope' v steps)
  | [], v, _ => by
    rw [Environment.follow, Environment.follow]
    exact h.refl _
  | step :: more, v, hreads => by
    rw [Environment.follow, Environment.follow]
    refine h.bind (followStep step v (hreads step (List.mem_cons_self ..))) fun v => ?_
    exact follow more v fun step hstep => hreads step (List.mem_cons_of_mem _ hstep)
termination_by steps => (sizeOf steps, 0)

theorem followStep (step : Expr) (v : Value)
    (hreads : (∀ other, step ≠ .var other) → (∀ other key, step ≠ .entry other key) →
      OnReads @R env env' scope scope' step) :
    R (env.followStep scope v step) (env'.followStep scope' v step) := by
  have hself := evaluate step
  cases step with
  | var name =>
    rw [Environment.followStep, Environment.followStep]
    exact h.refl _
  | entry name key =>
    rw [Environment.followStep, Environment.followStep]
    exact h.refl _
  | call function args =>
    rw [Environment.followStep, Environment.followStep]
    refine h.bind (evaluateAll args fun e he name hname => ?_) fun _ => h.call ..
    exact hreads nofun nofun name (.argument he hname)
  | _ =>
    rw [Environment.followStep, Environment.followStep]
    · exact hself (hreads nofun nofun)
    all_goals nofun
termination_by (sizeOf step, 1)

end

end Agreement

theorem Environment.agreement_self (env : Environment) : Agreement (fun {_} x x' => x = x') env env where
  refl _ := rfl
  bind := by
    rintro α β x _ f f' rfl hf
    rw [funext hf]
  call _ _ := rfl
  apply _ _ _ := rfl
  range _ _ _ _ := rfl

end TemplateEngine
