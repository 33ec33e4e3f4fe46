/-
  TemplateEngine.Proofs.Rendering.Inlining — an inclusion and the template in its place.

  Whoever replaces an inclusion by a block that holds the template's content changes how
  many inclusions the content is inside of, and so how many more can nest there. Nothing
  else looks at that number: rendering commutes with it, but for the limit, and a larger
  limit changes no rendering that ends well.

  Proved, for every writer and environment:
  - `renderUpTo_enter`: with the same room for inclusions, rendering one inclusion deeper
    is rendering here, then the depth raised.
  - `renderUpTo_mono`: with more room for inclusions, what succeeds ends the same.
  - `includeNamed_succeedsAs`: where an inclusion succeeds, the template's content does
    the same in its place.
  - `Replaced.succeedsAs`: a node that does what another one does, wherever that succeeds,
    can take its place at any depth.
  - `inclusion_inlined`: so the block can stand for the inclusion, whatever blocks,
    branches and loops are around it.
-/

import TemplateEngine.Proofs.Rendering.Calls
import TemplateEngine.Proofs.Rendering.Extension

namespace TemplateEngine

/-! ## One node for another -/

/-- One node in one place of a content, at any depth, has become another. -/
inductive Replaced (node node' : Node) : Content → Content → Prop
  | here {before after : Content} : Replaced node node' (before ++ node :: after) (before ++ node' :: after)
  | block {before after part part' : Content} {position : Position} {name : String} :
      Replaced node node' part part' →
        Replaced node node' (before ++ .block position name part :: after)
          (before ++ .block position name part' :: after)
  | branch {before after part part' : Content} {position : Position} {condition : Expr}
      {earlier later : List (Expr × Content)} {otherwise : Option Content} :
      Replaced node node' part part' →
        Replaced node node'
          (before ++ .conditional position (earlier ++ (condition, part) :: later) otherwise :: after)
          (before ++ .conditional position (earlier ++ (condition, part') :: later) otherwise :: after)
  | otherwise {before after part part' : Content} {position : Position}
      {branches : List (Expr × Content)} :
      Replaced node node' part part' →
        Replaced node node' (before ++ .conditional position branches (some part) :: after)
          (before ++ .conditional position branches (some part') :: after)
  | body {before after part part' : Content} {position : Position} {target : Target}
      {collection : Expr} {filters : List Expr} :
      Replaced node node' part part' →
        Replaced node node' (before ++ .loop position target collection filters part :: after)
          (before ++ .loop position target collection filters part' :: after)

variable {σ : Type}

/-! ## Ending alike where one succeeds -/

/-- If the first outcome is a success, the second one is the same. -/
def SucceedsAs (o o' : Outcome σ) : Prop := o.failure = none → o' = o

namespace SucceedsAs

variable {o o' : Outcome σ}

theorem refl (o : Outcome σ) : SucceedsAs o o := fun _ => rfl

theorem of_sameCaller {caller : Table Value} (h : SucceedAlike caller caller o o') : SucceedsAs o o' := by
  obtain ⟨run, failure⟩ := o
  obtain ⟨run', failure'⟩ := o'
  rintro rfl
  obtain ⟨⟨rfl, rfl⟩, rfl⟩ := h rfl
  rfl

theorem andThen {next next' : Run σ → Outcome σ} (h : SucceedsAs o o')
    (hnext : ∀ run, SucceedsAs (next run) (next' run)) :
    SucceedsAs (o.andThen next) (o'.andThen next') := by
  obtain ⟨run, failure⟩ := o
  cases failure with
  | some e => exact nofun
  | none =>
    rw [h rfl]
    exact hnext run

theorem mapScope (h : SucceedsAs o o') (f : Scope → Scope) : SucceedsAs (o.mapScope f) (o'.mapScope f) :=
  fun hdone => congrArg (·.mapScope f) (h hdone)

theorem withValue {next next' : Value → Outcome σ} (hnext : ∀ v, SucceedsAs (next v) (next' v))
    (run : Run σ) (directive : Directive) (position : Position) (calculation : Calculation) :
    SucceedsAs (run.withValue directive position calculation next)
      (run.withValue directive position calculation next') := by
  unfold Run.withValue
  split
  · exact hnext _
  · exact .refl _

theorem rounds {body body' : Run σ → Outcome σ} (hbody : ∀ run, SucceedsAs (body run) (body' run))
    (target : Target) (length index : Nat) (members : List (Value × Value)) (run : Run σ) :
    SucceedsAs (Run.rounds target length body index members run)
      (Run.rounds target length body' index members run) := by
  induction members generalizing index run with
  | nil => exact .refl _
  | cons member rest ih => exact ((hbody _).mapScope Scope.pop).andThen (ih (index + 1))

end SucceedsAs

variable [Writer σ]

/-! ## What surrounds a node -/

namespace Environment

variable (env : Environment) {included : String → Run σ → Outcome σ}

theorem nodes_succeedsAs {node node' : Node}
    (hnode : ∀ run, SucceedsAs (env.renderNode included node run) (env.renderNode included node' run))
    (before after : Content) (run : Run σ) :
    SucceedsAs (env.renderNodes included (before ++ node :: after) run)
      (env.renderNodes included (before ++ node' :: after) run) := by
  induction before generalizing run with
  | nil =>
    rw [List.nil_append, List.nil_append, renderNodes, renderNodes]
    exact (hnode run).andThen fun _ => .refl _
  | cons first before ih =>
    rw [List.cons_append, List.cons_append, renderNodes, renderNodes]
    exact (SucceedsAs.refl _).andThen ih

theorem branches_succeedsAs (position : Position) {otherwise otherwise' : Run σ → Outcome σ}
    (hotherwise : ∀ run, SucceedsAs (otherwise run) (otherwise' run)) (branches : List (Expr × Content))
    (run : Run σ) : SucceedsAs (env.renderBranches included position otherwise branches run)
      (env.renderBranches included position otherwise' branches run) := by
  induction branches with
  | nil =>
    rw [renderBranches, renderBranches]
    exact hotherwise run
  | cons b rest ih =>
    rw [renderBranches, renderBranches]
    refine .withValue (fun v => ?_) run .conditional position _
    split
    · exact .refl _
    · exact ih

variable {part part' : Content}
  (hpart : ∀ run, SucceedsAs (env.renderNodes included part run) (env.renderNodes included part' run))
include hpart

theorem branch_succeedsAs (position : Position) (otherwise : Run σ → Outcome σ) (condition : Expr)
    (earlier later : List (Expr × Content)) (run : Run σ) :
    SucceedsAs (env.renderBranches included position otherwise (earlier ++ (condition, part) :: later) run)
      (env.renderBranches included position otherwise (earlier ++ (condition, part') :: later) run) := by
  induction earlier with
  | nil =>
    rw [List.nil_append, List.nil_append, renderBranches, renderBranches]
    refine .withValue (fun v => ?_) run .conditional position _
    split
    · exact hpart run
    · exact .refl _
  | cons b rest ih =>
    rw [List.cons_append, List.cons_append, renderBranches, renderBranches]
    refine .withValue (fun v => ?_) run .conditional position _
    split
    · exact .refl _
    · exact ih

end Environment

theorem Replaced.succeedsAs {env : Environment} {included : String → Run σ → Outcome σ} {node node' : Node}
    (hnode : ∀ run, SucceedsAs (env.renderNode included node run) (env.renderNode included node' run))
    {content content' : Content} (h : Replaced node node' content content') (run : Run σ) :
    SucceedsAs (env.renderNodes included content run) (env.renderNodes included content' run) := by
  induction h generalizing run with
  | here => exact env.nodes_succeedsAs hnode _ _ run
  | block _ ih =>
    refine env.nodes_succeedsAs (fun run => ?_) _ _ run
    rw [Environment.renderNode, Environment.renderNode]
    exact ih run
  | @branch _ _ _ _ _ _ _ _ otherwise _ ih =>
    refine env.nodes_succeedsAs (fun run => ?_) _ _ run
    cases otherwise <;> rw [Environment.renderNode, Environment.renderNode] <;>
      exact env.branch_succeedsAs ih _ _ _ _ _ run
  | otherwise _ ih =>
    refine env.nodes_succeedsAs (fun run => ?_) _ _ run
    rw [Environment.renderNode, Environment.renderNode]
    exact env.branches_succeedsAs _ ih _ run
  | body _ ih =>
    refine env.nodes_succeedsAs (fun run => ?_) _ _ run
    rw [Environment.renderNode, Environment.renderNode]
    exact .withValue (fun v => .rounds ih _ _ _ _ run) run .loop _ _

/-! ## The depth of inclusions -/

namespace Environment

variable (env : Environment)

theorem evaluate_enter (scope : Scope) (e : Expr) : env.evaluate scope.enter e = env.evaluate scope e :=
  env.agreement_self.evaluate scope.enter scope e fun _ _ => rfl

theorem simulation_enter {included included' : String → Run σ → Outcome σ}
    (hincluded : ∀ name run,
      included name { run with scope := run.scope.enter } = (included' name run).mapScope Scope.enter) :
    Simulation (fun _ => True) env env included included'
      (fun run run' => run = { run' with scope := run'.scope.enter })
      fun o o' => o = o'.mapScope Scope.enter where
  done := by
    rintro _ run rfl
    rfl
  andThen := by
    rintro _ o next next' rfl hnext
    obtain ⟨run, failure⟩ := o
    cases failure with
    | some e => rfl
    | none => exact hnext _ _ rfl
  write := by
    rintro _ run text rfl
    rfl
  withValue := by
    rintro _ run next next' directive position e - rfl hnext
    rw [evaluate_enter]
    unfold Run.withValue
    split
    · exact hnext _
    · rfl
  set := by
    rintro _ ⟨⟨caller, bottom, inner, depth⟩, sink⟩ name value rfl
    cases inner <;> rfl
  push := by
    rintro _ run rfl
    rfl
  pop := by
    rintro _ o rfl
    rfl
  included := by
    rintro _ run name rfl
    exact hincluded name run

theorem renderUpTo_enter (n : Nat) (content : Content) (run : Run σ) :
    env.renderUpTo n content { run with scope := run.scope.enter } =
      (env.renderUpTo n content run).mapScope Scope.enter := by
  induction n generalizing content run with
  | zero => exact (env.simulation_enter fun _ _ => rfl).nodes content (fun _ _ => trivial) rfl
  | succ n ih =>
    refine (env.simulation_enter fun name run => ?_).nodes content (fun _ _ => trivial) rfl
    cases env.compileNamed name with
    | error cause => rfl
    | ok body =>
      -- leaving takes back what entering added only where there was something to take
      have hdepth : (env.renderUpTo n body { run with scope := run.scope.enter }).run.scope.includeDepth =
          run.scope.includeDepth + 1 :=
        (env.renderUpTo_kept n body { run with scope := run.scope.enter }).includeDepth
      show (env.renderUpTo n body { run with scope := run.scope.enter.enter }).mapScope Scope.leave = _
      rw [ih body { run with scope := run.scope.enter }]
      show _ = (Outcome.mapScope (env.renderUpTo n body _) Scope.leave).mapScope Scope.enter
      generalize env.renderUpTo n body { run with scope := run.scope.enter } = o at hdepth ⊢
      obtain ⟨⟨⟨caller, bottom, inner, depth⟩, sink⟩, failure⟩ := o
      cases (hdepth : depth = _)
      rfl

theorem extends_self : env.Extends env where
  load _ _ h := h
  functions _ _ h := h
  patterns _ _ h := h
  includeDepth := Nat.le_refl _
  inheritanceDepth := Nat.le_refl _
  rangeLength := Nat.le_refl _
  strict h := h

theorem renderUpTo_mono {n n' : Nat} (hn : n ≤ n') (content : Content) (run : Run σ) :
    SucceedsAs (env.renderUpTo n content run) (env.renderUpTo n' content run) := by
  have hsame : SameBut run.scope.caller run.scope.caller run run := ⟨rfl, rfl⟩
  exact .of_sameCaller (env.extends_self.renderUpTo (.inl rfl) hn content hsame)

theorem includeNamed_succeedsAs {name : String} {body : Content} (hbody : env.compileNamed name = .ok body)
    (run : Run σ) : SucceedsAs (env.includeNamed name run) (env.renderContent body run) := by
  unfold includeNamed
  split
  · exact nofun
  rw [hbody]
  let room (scope : Scope) := env.config.maxIncludeDepth - scope.includeDepth
  have hless : room run.scope.enter ≤ room run.scope := Nat.sub_le_sub_left (Nat.le_succ _) _
  have hinside : (env.renderContent body { run with scope := run.scope.enter }).mapScope Scope.leave =
      env.renderUpTo (room run.scope.enter) body run := by
    unfold renderContent
    rw [renderUpTo_enter]
    rfl
  show SucceedsAs ((env.renderContent body _).mapScope Scope.leave) (env.renderUpTo (room run.scope) body run)
  rw [hinside]
  exact env.renderUpTo_mono hless body run

/-- An inclusion, anywhere in a content, can be replaced by a block that holds the content
    of the included template: if the rendering succeeds it stays the same, in what it
    writes and in the scope it leaves. -/
theorem inclusion_inlined {name : String} {body : Content} (hbody : env.compileNamed name = .ok body)
    {position position' : Position} {block : String} {content content' : Content}
    (hreplaced : Replaced (.inclusion position name) (.block position' block body) content content')
    (run : Run σ) (hdone : (env.renderContent content run).failure = none) :
    env.renderContent content' run = env.renderContent content run := by
  have hnode (run : Run σ) : SucceedsAs (env.renderNode env.includeNamed (.inclusion position name) run)
      (env.renderNode env.includeNamed (.block position' block body) run) := by
    rw [renderNode, renderNode, ← renderContent_eq]
    exact env.includeNamed_succeedsAs hbody run
  have halike := hreplaced.succeedsAs hnode run
  rw [← renderContent_eq, ← renderContent_eq] at halike
  exact halike hdone

/-- A template sets a variable, inside a branch, and the nodes behind the branch read it. -/
theorem inclusion_inlined_assignment :
    let content (node : Node) : Content :=
      [.conditional ⟨0, 1, 1⟩ [(.literal (.bool true), [node])] none, .output ⟨30, 1, 31⟩ (.var "x")]
    let body : Content := [.assignment ⟨0, 1, 1⟩ "x" (.literal (.int 1))]
    let run : Run := { scope := { caller := [] }, sink := {} }
    ∃ env : Environment, env.compileNamed "t" = .ok body ∧
      (env.renderContent (content (.inclusion ⟨10, 1, 11⟩ "t")) run).failure = none ∧
      env.renderContent (content (.block ⟨10, 1, 11⟩ "t" body)) run =
        env.renderContent (content (.inclusion ⟨10, 1, 11⟩ "t")) run := by
  intro content body run
  let env : Environment := { load := Loader.ofTable [("t", "\x7b%set x=1%\x7d")] }
  have hbody : env.compileNamed "t" = .ok body := by with_unfolding_all rfl
  have hreplaced (node node' : Node) : Replaced node node' (content node) (content node') :=
    @Replaced.branch _ _ [] _ _ _ _ _ [] _ _ (@Replaced.here _ _ [] [])
  have hdone : (env.renderContent (content (.inclusion ⟨10, 1, 11⟩ "t")) run).failure = none := by
    simp only [content, renderContent_eq, renderNodes, renderNode, renderBranches, includeNamed, hbody, body,
      Environment.evaluate]
    with_unfolding_all rfl
  exact ⟨env, hbody, hdone, env.inclusion_inlined hbody (hreplaced _ _) run hdone⟩

end Environment

end TemplateEngine
