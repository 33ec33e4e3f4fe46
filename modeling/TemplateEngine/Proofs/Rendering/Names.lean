/-
  TemplateEngine.Proofs.Rendering.Names — which of the caller's variables a rendering sees.

  A content reads a variable if one of its calculations does, at any depth, or one of a
  template that it may come to include, which can be any that compiles. Names of properties,
  functions and filters are not read as variables, though they are written the same way.
  Whatever the caller has under other names makes no difference.

  Proved, for every writer:
  - `evaluate_withCaller`: an expression has the same value over two callers that agree on
    the variables it reads.
  - `renderUpTo_withCaller`: contents then do the same, within any room for inclusions.
  - `render_of_agreeing`: so rendering ends in the same way, with the same written.
-/

import TemplateEngine.Proofs.Rendering.Extension

namespace TemplateEngine

/-- Rendering the content, or a template that there is to include, may read the variable. -/
inductive Environment.MayRead (env : Environment) (content : Content) (name : String) : Prop
  | here {e : Expr} : Calculates content e → e.Reads name → MayRead env content name
  | included {template : String} {body : Content} {e : Expr} :
      env.compileNamed template = .ok body → Calculates body e → e.Reads name → MayRead env content name

/-- The callers have the same under the name: the same value, or both none. -/
def SameVariable (caller caller' : Table Value) (name : String) : Prop :=
  caller.get? name = caller'.get? name

/-! ## Expressions -/

theorem Scope.lookup_withCaller (scope : Scope) {caller' : Table Value} {name : String}
    (h : SameVariable scope.caller caller' name) :
    (scope.withCaller caller').lookup name = scope.lookup name := by
  have hframes : (scope.withCaller caller').frames = scope.frames := rfl
  have hcaller : (scope.withCaller caller').caller.get? name = scope.caller.get? name := h.symm
  rw [Scope.lookup, Scope.lookup, hframes, hcaller]

namespace Environment

variable (env : Environment) {caller caller' : Table Value}

theorem evaluate_withCaller (scope : Scope) (e : Expr)
    (h : ∀ name, e.Reads name → SameVariable scope.caller caller' name) :
    env.evaluate (scope.withCaller caller') e = env.evaluate scope e := by
  refine env.agreement_self.evaluate (scope.withCaller caller') scope e fun name hname => ?_
  rw [readVariable, scope.lookup_withCaller (h name hname), ← readVariable]

end Environment

/-! ## Contents -/

variable {σ : Type}

/-- The outcomes are the same, but for the callers' variables. -/
def EndAlike (caller caller' : Table Value) (o o' : Outcome σ) : Prop :=
  SameBut caller caller' o.run o'.run ∧ o'.failure = o.failure

namespace EndAlike

variable {caller caller' : Table Value} {o o' : Outcome σ}

theorem andThen {next next' : Run σ → Outcome σ} (h : EndAlike caller caller' o o')
    (hnext : ∀ run run', SameBut caller caller' run run' → EndAlike caller caller' (next run) (next' run')) :
    EndAlike caller caller' (o.andThen next) (o'.andThen next') := by
  obtain ⟨hrun, hfailure⟩ := h
  unfold Outcome.andThen
  rw [hfailure]
  split
  · exact ⟨hrun, hfailure⟩
  · exact hnext _ _ hrun

theorem mapScope (h : EndAlike caller caller' o o') {f : Scope → Scope}
    (hf : ∀ scope, (f scope).caller = scope.caller)
    (hf' : ∀ scope, f (scope.withCaller caller') = (f scope).withCaller caller') :
    EndAlike caller caller' (o.mapScope f) (o'.mapScope f) := by
  obtain ⟨hsame, hfailure⟩ := h
  exact ⟨hsame.mapScope hf hf', hfailure⟩

end EndAlike

namespace Environment

variable [Writer σ] (env : Environment) {caller caller' : Table Value}

theorem simulation_withCaller {included included' : String → Run σ → Outcome σ}
    (hincluded : ∀ name run run', SameBut caller caller' run run' →
      EndAlike caller caller' (included name run) (included' name run')) :
    Simulation (fun e => ∀ name, e.Reads name → SameVariable caller caller' name) env env included included'
      (SameBut caller caller') (EndAlike caller caller') where
  done hrun := ⟨hrun, rfl⟩
  andThen ho hnext := ho.andThen hnext
  write := by
    rintro run _ text ⟨hrun, rfl⟩
    exact ⟨⟨hrun, rfl⟩, rfl⟩
  withValue := by
    rintro run _ next next' directive position e hreads ⟨hrun, rfl⟩ hnext
    subst hrun
    rw [env.evaluate_withCaller run.scope e hreads]
    unfold Run.withValue
    split
    · exact hnext _
    · exact ⟨⟨rfl, rfl⟩, rfl⟩
  set := by
    rintro run _ name value ⟨hrun, rfl⟩
    exact ⟨(Scope.caller_set ..).trans hrun, by rw [Scope.withCaller_set]⟩
  push := by
    rintro run _ ⟨hrun, rfl⟩
    exact ⟨hrun, rfl⟩
  pop ho := ho.mapScope (fun _ => rfl) fun _ => rfl
  included name := hincluded name _ _

theorem renderUpTo_withCaller (n : Nat) (content : Content)
    (h : ∀ name, env.MayRead content name → SameVariable caller caller' name)
    {run run' : Run σ} (hrun : SameBut caller caller' run run') :
    EndAlike caller caller' (env.renderUpTo n content run) (env.renderUpTo n content run') := by
  induction n generalizing content run run' with
  | zero =>
    refine (env.simulation_withCaller ?_).nodes content (fun e he name hname => h name (.here he hname)) hrun
    intro name run run' hrun
    exact ⟨hrun, rfl⟩
  | succ n ih =>
    refine (env.simulation_withCaller ?_).nodes content (fun e he name hname => h name (.here he hname)) hrun
    rintro name run _ ⟨hrun, rfl⟩
    cases hbody : env.compileNamed name with
    | error cause => exact ⟨⟨hrun, rfl⟩, rfl⟩
    | ok body =>
      -- what the body may read the content may, so the inclusion asks for no more agreement
      have hinside (name : String) (hname : env.MayRead body name) : SameVariable caller caller' name := by
        cases hname with
        | here he hreads => exact h name (.included hbody he hreads)
        | included hother he hreads => exact h name (.included hother he hreads)
      have hentered : SameBut caller caller' { run with scope := run.scope.enter }
          { run with scope := (run.scope.withCaller caller').enter } := ⟨hrun, rfl⟩
      exact (ih body hinside hentered).mapScope (fun _ => rfl) fun _ => rfl

/-- Over callers that agree on the variables that the content and the templates may read, the
    rendering is the same: its output, its failure and what it leaves in the frames. -/
theorem render_of_agreeing (content : Content) (run : Run σ) {caller' : Table Value}
    (h : ∀ name, env.MayRead content name → SameVariable run.scope.caller caller' name) :
    let o := env.renderContent content run
    let o' := env.renderContent content { run with scope := run.scope.withCaller caller' }
    o'.failure = o.failure ∧ o'.run.sink = o.run.sink ∧ o'.run.scope = o.run.scope.withCaller caller' := by
  intro o o'
  have hsame : SameBut run.scope.caller caller' run { run with scope := run.scope.withCaller caller' } :=
    ⟨rfl, rfl⟩
  obtain ⟨⟨-, hrun⟩, hfailure⟩ := env.renderUpTo_withCaller
    (env.config.maxIncludeDepth - run.scope.includeDepth) content h hsame
  exact ⟨hfailure, congrArg (·.sink) hrun, congrArg (·.scope) hrun⟩

/-- Two callers differ in variables named like the filter and the property of a content that
    also includes a template. -/
theorem render_of_agreeing_filter :
    let content : Content := [.output ⟨0, 1, 1⟩ (.pipe (.var "a") [.var "upper"]),
      .output ⟨11, 1, 12⟩ (.select (.var "b") [.var "c"]), .inclusion ⟨18, 1, 19⟩ "t"]
    let caller : Table Value := [("a", .string "x"), ("b", .map [("c", .int 1)]), ("d", .int 2)]
    let caller' : Table Value := caller ++ [("upper", .int 3), ("c", .int 4)]
    ∃ env : Environment, env.load "t" = .ok "{{d}}" ∧
      (∀ name, env.MayRead content name → SameVariable caller caller' name) ∧
      ¬ SameVariable caller caller' "upper" ∧ ¬ SameVariable caller caller' "c" ∧
      ((⟨none, content⟩ : Template).render env caller').failure =
        ((⟨none, content⟩ : Template).render env caller).failure ∧
      ((⟨none, content⟩ : Template).render env caller').run.sink =
        ((⟨none, content⟩ : Template).render env caller).run.sink := by
  intro content caller caller'
  let env : Environment := { load := Loader.ofTable [("t", "{{d}}")] }
  have hbody : env.compileNamed "t" = .ok [.output ⟨0, 1, 1⟩ (.var "d")] := by with_unfolding_all rfl
  have hmissing (name : String) (hname : name ≠ "t") : env.load name = .error (.notFound name) := by
    simp [env, Loader.ofTable, Table.get?, Ne.symm hname]
  have hagree (name : String) (hname : env.MayRead content name) : SameVariable caller caller' name := by
    cases hname with
    | here he hreads =>
      obtain ⟨node, hnode, he⟩ := he
      have hmem := hnode.mem_of_leaves (by simp [content, Node.contents])
      simp only [content, List.mem_cons, List.not_mem_nil, or_false] at hmem
      rcases hmem with rfl | rfl | rfl
      · cases List.mem_singleton.mp he
        cases hreads with
        | source hbase =>
          cases hbase
          rfl
        | stage hstage => simp at hstage
      · cases List.mem_singleton.mp he
        cases hreads with
        | base hbase =>
          cases hbase
          rfl
        | step hstep hvar =>
          exact absurd (List.mem_singleton.mp hstep) (hvar "c")
      · cases he
    | @included template body e hcompile he hreads =>
      by_cases ht : template = "t"
      · subst ht
        cases hbody.symm.trans hcompile
        obtain ⟨node, hnode, he⟩ := he
        cases List.mem_singleton.mp (hnode.mem_of_leaves (by simp [Node.contents]))
        cases List.mem_singleton.mp he
        cases hreads
        rfl
      · rw [compileNamed, loadDocument, hmissing template ht] at hcompile
        cases hcompile
  obtain ⟨hfailure, hsink, -⟩ :=
    env.render_of_agreeing content ({ scope := { caller }, sink := {} } : Run) hagree
  have hupper : ¬ SameVariable caller caller' "upper" := by
    intro h
    cases h
  have hc : ¬ SameVariable caller caller' "c" := by
    intro h
    cases h
  exact ⟨env, rfl, hagree, hupper, hc, hfailure, hsink⟩

end Environment

end TemplateEngine
