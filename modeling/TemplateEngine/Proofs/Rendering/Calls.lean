/-
  TemplateEngine.Proofs.Rendering.Calls — contents rendered inside contents.

  Rendering goes through the nodes of a content (`Arrives`). A node can start to render
  another content (`Starts`): its own, one of its branches, its body once more, or that of
  a template. So rendering is a tree of calls (`Calls`).

  An inclusion looks at the scope to see how many inclusions it is inside. Calls inside a
  node are of smaller contents, and calls of templates are one inclusion deeper, up to the
  limit.

  Proved, for every writer and environment:
  - `renderContent_eq`: a content is rendered by a renderer that knows no bound but what it
    reads in the scope when it comes to an inclusion.
  - `wellFounded_calls`: calls do not go on without end, whatever templates include.
-/

import TemplateEngine.Proofs.Content.Parts
import TemplateEngine.Proofs.Rendering.Frames
import TemplateEngine.Proofs.Rendering.Simulation

namespace TemplateEngine

variable {σ : Type} [Writer σ]

/-! ## Inclusions as the scope has them -/

namespace Environment

variable (env : Environment)

/-- Includes a template, if the scope is not inside too many inclusions already. -/
def includeNamed (name : String) (run : Run σ) : Outcome σ :=
  if env.config.maxIncludeDepth ≤ run.scope.includeDepth then
    run.fail (.recursiveInclusion name env.config.maxIncludeDepth)
  else
    match env.compileNamed name with
    | .error cause => run.fail (.inclusion name cause)
    | .ok content =>
      (env.renderContent content { run with scope := run.scope.enter }).mapScope Scope.leave

theorem renderContent_kept (content : Content) (run : Run σ) :
    Kept (fun _ => True) run.scope (env.renderContent content run).run.scope :=
  (env.renderUpTo_kept _ content run).mono fun _ _ => trivial

theorem includeNamed_kept (name : String) (run : Run σ) :
    Kept (fun _ => True) run.scope (env.includeNamed name run).run.scope := by
  unfold includeNamed
  split
  · exact .refl _
  split
  · exact .refl _
  · exact (env.renderContent_kept _ { run with scope := run.scope.enter }).leave_of_enter

theorem includeDepth_renderNode (node : Node) (run : Run σ) :
    (env.renderNode env.includeNamed node run).run.scope.includeDepth = run.scope.includeDepth := by
  have hincluded : InclusionsKept (fun _ _ => True) (env.includeNamed : String → Run σ → Outcome σ) :=
    env.includeNamed_kept
  exact (env.renderNode_kept hincluded (fun _ => True) node run (.all _)).includeDepth

/-- Two ways to include that agree inside `depth` inclusions, side by side there. -/
theorem simulation_of_depth {depth : Nat} {included included' : String → Run σ → Outcome σ}
    (hincluded : ∀ name run, run.scope.includeDepth = depth →
      included name run = included' name run ∧ (included' name run).run.scope.includeDepth = depth) :
    Simulation (fun _ => True) env env included included'
      (fun run run' => run = run' ∧ run'.scope.includeDepth = depth)
      fun o o' => o = o' ∧ o'.run.scope.includeDepth = depth where
  done := by
    rintro run _ ⟨rfl, hrun⟩
    exact ⟨rfl, hrun⟩
  andThen := by
    rintro o _ next next' ⟨rfl, ho⟩ hnext
    unfold Outcome.andThen
    split
    · exact ⟨rfl, ho⟩
    · exact hnext _ _ ⟨rfl, ho⟩
  write := by
    rintro run _ text ⟨rfl, hrun⟩
    exact ⟨rfl, hrun⟩
  withValue := by
    rintro run _ next next' directive position e - ⟨rfl, hrun⟩ hnext
    unfold Run.withValue
    split
    · exact hnext _
    · exact ⟨rfl, hrun⟩
  set := by
    rintro run _ name value ⟨rfl, hrun⟩
    exact ⟨rfl, (Scope.includeDepth_set _ _ _).trans hrun⟩
  push := by
    rintro run _ ⟨rfl, hrun⟩
    exact ⟨rfl, hrun⟩
  pop := by
    rintro o _ ⟨rfl, ho⟩
    exact ⟨rfl, ho⟩
  included := by
    rintro run _ name ⟨rfl, hrun⟩
    exact hincluded name run hrun

theorem renderContent_eq (content : Content) (run : Run σ) :
    env.renderContent content run = env.renderNodes env.includeNamed content run := by
  unfold renderContent
  generalize hn : env.config.maxIncludeDepth - run.scope.includeDepth = n
  cases n with
  | zero =>
    refine ((env.simulation_of_depth fun name run' hrun' => ?_).nodes content (fun _ _ => trivial) ⟨rfl, rfl⟩).1
    have hfull : env.config.maxIncludeDepth ≤ run'.scope.includeDepth := by omega
    rw [includeNamed, if_pos hfull]
    exact ⟨rfl, hrun'⟩
  | succ n =>
    refine ((env.simulation_of_depth fun name run' hrun' => ?_).nodes content (fun _ _ => trivial) ⟨rfl, rfl⟩).1
    have hroom : ¬ env.config.maxIncludeDepth ≤ run'.scope.includeDepth := by omega
    rw [includeNamed, if_neg hroom]
    cases env.compileNamed name with
    | error cause => exact ⟨rfl, hrun'⟩
    | ok body =>
      have hdepth := (env.renderContent_kept body { run' with scope := run'.scope.enter }).includeDepth
      have hn' : env.config.maxIncludeDepth - run'.scope.enter.includeDepth = n := by
        show env.config.maxIncludeDepth - (run'.scope.includeDepth + 1) = n
        omega
      refine ⟨?_, ?_⟩
      · show Outcome.mapScope (env.renderUpTo n body _) _ = Outcome.mapScope (env.renderUpTo _ body _) _
        rw [hn']
      · show (env.renderContent body _).run.scope.includeDepth - 1 = _
        rw [hdepth, ← hrun']
        rfl

theorem renderNodes_includeNamed (content : Content) :
    (env.renderNodes env.includeNamed content : Run σ → Outcome σ) = env.renderContent content := by
  funext run
  rw [renderContent_eq]

theorem renderContent_nil (run : Run σ) : env.renderContent [] run = { run } := by
  rw [renderContent_eq, renderNodes]

theorem renderContent_cons (node : Node) (rest : Content) (run : Run σ) :
    env.renderContent (node :: rest) run =
      (env.renderNode env.includeNamed node run).andThen (env.renderContent rest) := by
  rw [renderContent_eq, renderNodes]
  congr 1
  funext run
  rw [renderContent_eq]

end Environment

/-! ## Calls -/

/-- The conditions of the branches do not hold, up to the branch of this content. -/
inductive Chooses (env : Environment) (scope : Scope) (otherwise : Option Content) :
    List (Expr × Content) → Content → Prop
  | branch {condition : Expr} {content : Content} {rest : List (Expr × Content)} {v : Value} :
      env.evaluate scope condition = .ok v → v.isTruthy = true →
        Chooses env scope otherwise ((condition, content) :: rest) content
  | next {condition : Expr} {content other : Content} {rest : List (Expr × Content)} {v : Value} :
      env.evaluate scope condition = .ok v → v.isTruthy = false →
        Chooses env scope otherwise rest content →
          Chooses env scope otherwise ((condition, other) :: rest) content
  | otherwise {content : Content} : otherwise = some content → Chooses env scope otherwise [] content

/-- What the body of a round of a loop sees. -/
def Scope.forRound (scope : Scope) (target : Target) (index length : Nat) (member : Value × Value) : Scope :=
  (target.bind member.1 member.2 scope.push).set "loop" (loopState index length)

/-- The rounds from `index` on, one of which starts with the last run. -/
inductive StartsRound (target : Target) (length : Nat) (body : Run σ → Outcome σ) :
    Nat → List (Value × Value) → Run σ → Run σ → Prop
  | here {index : Nat} {member : Value × Value} {rest : List (Value × Value)} {run : Run σ} :
      StartsRound target length body index (member :: rest) run
        { run with scope := run.scope.forRound target index length member }
  | later {index : Nat} {member : Value × Value} {rest : List (Value × Value)} {run run' start : Run σ} :
      run.round target index length member body = { run := run' } →
        StartsRound target length body (index + 1) rest run' start →
          StartsRound target length body index (member :: rest) run start

/-- The node, rendered in the first run, starts to render the content in the second. -/
inductive Starts (env : Environment) : Node → Run σ → Content → Run σ → Prop
  | block (position : Position) (name : String) (content : Content) (run : Run σ) :
      Starts env (.block position name content) run content run
  | conditional {position : Position} {branches : List (Expr × Content)} {otherwise : Option Content}
      {content : Content} {run : Run σ} : Chooses env run.scope otherwise branches content →
        Starts env (.conditional position branches otherwise) run content run
  | loop {position : Position} {target : Target} {collection : Expr} {filters : List Expr}
      {body : Content} {v : Value} {run start : Run σ} :
      env.evaluate run.scope (.pipe collection filters) = .ok v →
        StartsRound target v.members.length (env.renderContent body) 0 v.members run start →
          Starts env (.loop position target collection filters body) run body start
  | inclusion {position : Position} {name : String} {content : Content} {run : Run σ} :
      run.scope.includeDepth < env.config.maxIncludeDepth → env.compileNamed name = .ok content →
        Starts env (.inclusion position name) run content { run with scope := run.scope.enter }

/-- Rendering the content in the first run comes to the node, in the second. -/
inductive Arrives (env : Environment) (node : Node) : Content → Run σ → Run σ → Prop
  | here {rest : Content} {run : Run σ} : Arrives env node (node :: rest) run run
  | later {first : Node} {rest : Content} {run run' run'' : Run σ} :
      env.renderNode env.includeNamed first run = { run := run' } → Arrives env node rest run' run'' →
        Arrives env node (first :: rest) run run''

/-- Rendering one content in its run starts to render the other one in its. -/
def Calls (env : Environment) (caller called : Content × Run σ) : Prop :=
  ∃ node run, Arrives env node caller.1 caller.2 run ∧ Starts env node run called.1 called.2

/-! ## Where calls lead -/

namespace Arrives

variable {env : Environment} {node : Node} {content : Content} {run run' : Run σ}

theorem mem (h : Arrives env node content run run') : node ∈ content := by
  induction h with
  | here => exact List.mem_cons_self ..
  | later _ _ ih => exact List.mem_cons_of_mem _ ih

theorem includeDepth (h : Arrives env node content run run') :
    run'.scope.includeDepth = run.scope.includeDepth := by
  induction h with
  | here => rfl
  | @later first _ run _ _ hfirst _ ih =>
    have hkept := env.includeDepth_renderNode first run
    rw [hfirst] at hkept
    exact ih.trans hkept

end Arrives

theorem Chooses.mem {env : Environment} {scope : Scope} {otherwise : Option Content}
    {branches : List (Expr × Content)} {content : Content} (h : Chooses env scope otherwise branches content) :
    content ∈ branches.map (·.2) ++ otherwise.toList := by
  induction h with
  | branch => exact List.mem_append_left _ (List.mem_cons_self ..)
  | next _ _ _ ih => exact List.mem_cons_of_mem _ ih
  | otherwise ho => exact Option.mem_toList.mpr ho

theorem StartsRound.includeDepth {target : Target} {length index : Nat} {members : List (Value × Value)}
    {env : Environment} {body : Content} {run start : Run σ}
    (h : StartsRound target length (env.renderContent body) index members run start) :
    start.scope.includeDepth = run.scope.includeDepth := by
  induction h with
  | @here index member _ run =>
    exact (Scope.includeDepth_set _ _ _).trans
      (Kept.bind target member.1 member.2 run.scope.push).includeDepth
  | @later index member _ run _ _ hround _ ih =>
    have hscope := scope_round (env.renderContent_kept body) run target index length member
    rw [hround] at hscope
    rw [ih, hscope]

/-- A content inside the node is rendered inside as many inclusions, and another template
    inside one more. -/
theorem Starts.cases_depth {env : Environment} {node : Node} {content : Content} {run start : Run σ}
    (h : Starts env node run content start) :
    (content ∈ node.contents ∧ start.scope.includeDepth = run.scope.includeDepth) ∨
      ∃ position name, node = .inclusion position name ∧ env.compileNamed name = .ok content ∧
        run.scope.includeDepth < env.config.maxIncludeDepth ∧
        start.scope.includeDepth = run.scope.includeDepth + 1 := by
  cases h with
  | block => exact .inl ⟨List.mem_singleton.mpr rfl, rfl⟩
  | conditional hchoice => exact .inl ⟨hchoice.mem, rfl⟩
  | loop _ hround => exact .inl ⟨List.mem_singleton.mpr rfl, hround.includeDepth⟩
  | inclusion hdepth hcompile => exact .inr ⟨_, _, rfl, hcompile, hdepth, rfl⟩

/-- Calls end, as each goes to a smaller content or leaves fewer inclusions to go. -/
theorem wellFounded_calls (env : Environment) :
    WellFounded fun called caller : Content × Run σ => Calls env caller called := by
  let measure : Content × Run σ → Nat × Nat := fun c =>
    (env.config.maxIncludeDepth - c.2.scope.includeDepth, sizeOf c.1)
  refine Subrelation.wf (r := InvImage (Prod.Lex (· < ·) (· < ·)) measure) ?_
    (InvImage.wf measure (Prod.lex Nat.lt_wfRel Nat.lt_wfRel).wf)
  rintro ⟨content, start⟩ ⟨outer, run⟩ ⟨node, run', harrives, hstarts⟩
  have hdepth := harrives.includeDepth
  rcases hstarts.cases_depth with ⟨hpart, hsame⟩ | ⟨_, _, -, -, hroom, hmore⟩
  · have hnode : sizeOf node < sizeOf outer := List.sizeOf_lt_of_mem harrives.mem
    have hsize := Node.sizeOf_lt_of_mem_contents hpart
    have heq : env.config.maxIncludeDepth - start.scope.includeDepth =
        env.config.maxIncludeDepth - run.scope.includeDepth := by rw [hsame, hdepth]
    show Prod.Lex _ _ (_, sizeOf content) (_, sizeOf outer)
    rw [heq]
    exact .right _ (Nat.lt_trans hsize hnode)
  · exact .left _ _ (by simp only at hdepth hroom hmore ⊢; omega)

end TemplateEngine
