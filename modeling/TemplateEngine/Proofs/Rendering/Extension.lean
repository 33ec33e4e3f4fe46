/-
  TemplateEngine.Proofs.Rendering.Extension — environments that can do more.

  An environment extends another if it loads what the other one loads, has its functions and
  patterns, stays within no lower limits and is strict only where the other is. A caller extends
  another by more variables, which only counts if nobody could do without them: where a
  variable nobody defined is null, a new one would be seen.

  Proved:
  - `Environment.Extends.compileUpTo`: what compiles still compiles, to the same content.
  - `Environment.Extends.evaluate`: what has a value still has it.
  - `Environment.Extends.renderContent`: what is rendered without a failure still is, and
    writes the same to any writer.
  - `success_of_extends`: all of it for templates made from a source.
-/

import TemplateEngine.Proofs.Evaluation.Agreement
import TemplateEngine.Proofs.Except
import TemplateEngine.Proofs.Rendering.Frames
import TemplateEngine.Proofs.Rendering.Simulation
import TemplateEngine.Template

namespace TemplateEngine

open TemplateEngine.Except (bind_eq_ok mapError_eq_ok)

structure Environment.Extends (env env' : Environment) : Prop where
  load : ∀ name source, env.load name = .ok source → env'.load name = .ok source
  functions : ∀ name f, env.functions.get? name = some f → env'.functions.get? name = some f
  patterns : ∀ pattern test, env.patterns pattern = .ok test → env'.patterns pattern = .ok test
  includeDepth : env.config.maxIncludeDepth ≤ env'.config.maxIncludeDepth
  inheritanceDepth : env.config.maxInheritanceDepth ≤ env'.config.maxInheritanceDepth
  rangeLength : env.config.maxRangeLength ≤ env'.config.maxRangeLength
  strict : env'.config.strictVariables = true → env.config.strictVariables = true

/-- The scope over other variables of the caller. -/
def Scope.withCaller (scope : Scope) (caller : Table Value) : Scope := { scope with caller }

theorem Scope.withCaller_set (scope : Scope) (name : String) (value : Value) (caller : Table Value) :
    (scope.withCaller caller).set name value = (scope.set name value).withCaller caller := by
  obtain ⟨_, _, inner, _⟩ := scope
  cases inner <;> rfl

/-- The caller's variables are the same, or more of them where a missing one is an error. -/
def CallerExtends (env : Environment) (caller caller' : Table Value) : Prop :=
  caller' = caller ∨ env.config.strictVariables = true ∧
    ∀ name v, caller.get? name = some v → caller'.get? name = some v

namespace CallerExtends

variable {env : Environment} {caller' : Table Value} {scope : Scope}
  (h : CallerExtends env scope.caller caller')
include h

theorem lookup {name : String} {v : Value} (hlookup : scope.lookup name = some v) :
    (scope.withCaller caller').lookup name = some v := by
  rcases h with rfl | ⟨-, hmore⟩
  · exact hlookup
  · have hframes : (scope.withCaller caller').frames = scope.frames := rfl
    rw [Scope.lookup] at hlookup ⊢
    rw [hframes]
    split at hlookup
    · exact hlookup
    · exact hmore name v hlookup

theorem eq_of_lenient (hlenient : env.config.strictVariables = false) :
    scope.withCaller caller' = scope := by
  rcases h with rfl | ⟨hstrict, -⟩
  · rfl
  · rw [hlenient] at hstrict
    cases hstrict

end CallerExtends

/-- The second calculation has the value of the first one, if that has one. -/
def Retains {α : Type} (x x' : Except CalculateError α) : Prop := ∀ a, x = .ok a → x' = .ok a

/-- The runs are the same, but for the callers' variables. -/
def SameBut {σ : Type} (caller caller' : Table Value) (run run' : Run σ) : Prop :=
  run.scope.caller = caller ∧ run' = { run with scope := run.scope.withCaller caller' }

theorem SameBut.mapScope {σ : Type} {caller caller' : Table Value} {run run' : Run σ}
    (h : SameBut caller caller' run run') {f : Scope → Scope} (hf : ∀ scope, (f scope).caller = scope.caller)
    (hf' : ∀ scope, f (scope.withCaller caller') = (f scope).withCaller caller') :
    SameBut caller caller' { run with scope := f run.scope } { run' with scope := f run'.scope } := by
  obtain ⟨hcaller, rfl⟩ := h
  exact ⟨(hf _).trans hcaller, by rw [hf']⟩

/-- Unless the first outcome is a failure, so is the second one none, and it is the same. -/
def SucceedAlike {σ : Type} (caller caller' : Table Value) (o o' : Outcome σ) : Prop :=
  o.failure = none → SameBut caller caller' o.run o'.run ∧ o'.failure = none

theorem SucceedAlike.mapScope {σ : Type} {caller caller' : Table Value} {o o' : Outcome σ}
    (h : SucceedAlike caller caller' o o') {f : Scope → Scope} (hf : ∀ scope, (f scope).caller = scope.caller)
    (hf' : ∀ scope, f (scope.withCaller caller') = (f scope).withCaller caller') :
    SucceedAlike caller caller' (o.mapScope f) (o'.mapScope f) := by
  intro hdone
  obtain ⟨hsame, hfailure⟩ := h hdone
  exact ⟨hsame.mapScope hf hf', hfailure⟩

namespace Environment.Extends

variable {env env' : Environment} (h : env.Extends env') {caller caller' : Table Value}
include h

/-! ## Compiling -/

theorem loadDocument {name : String} {document : Document} (hload : env.loadDocument name = .ok document) :
    env'.loadDocument name = .ok document := by
  obtain ⟨source, hsource, hparse⟩ := bind_eq_ok.mp hload
  rw [Environment.loadDocument, h.load name source (mapError_eq_ok.mp hsource)]
  exact hparse

theorem compileUpTo {n n' : Nat} (hn : n ≤ n') {document : Document} {content : Content}
    (hcompile : env.compileUpTo n document = .ok content) :
    env'.compileUpTo n' document = .ok content := by
  induction n generalizing n' document content with
  | zero =>
    cases document with
    | root => cases n' <;> exact hcompile
    | extending => cases hcompile
  | succ n ih =>
    obtain ⟨m, rfl⟩ : ∃ m, n' = m + 1 := ⟨n' - 1, by omega⟩
    cases document with
    | root => exact hcompile
    | extending position parent overrides =>
      obtain ⟨above, hload, hcompile⟩ := bind_eq_ok.mp hcompile
      obtain ⟨content', habove, hcontent⟩ := bind_eq_ok.mp hcompile
      exact bind_eq_ok.mpr ⟨above, h.loadDocument hload,
        bind_eq_ok.mpr ⟨content', ih (by omega) habove, hcontent⟩⟩

theorem compile {document : Document} {content : Content} (hcompile : env.compile document = .ok content) :
    env'.compile document = .ok content :=
  h.compileUpTo h.inheritanceDepth hcompile

theorem compileNamed {name : String} {content : Content} (hcompile : env.compileNamed name = .ok content) :
    env'.compileNamed name = .ok content := by
  obtain ⟨document, hload, hcompile⟩ := bind_eq_ok.mp hcompile
  exact bind_eq_ok.mpr ⟨document, h.loadDocument hload, h.compile hcompile⟩

theorem templateOfSource {source : String} {template : Template}
    (hcompile : env.templateOfSource source = .ok template) :
    env'.templateOfSource source = .ok template := by
  obtain ⟨document, hparse, hcompile⟩ := bind_eq_ok.mp hcompile
  obtain ⟨content, hcontent, htemplate⟩ := bind_eq_ok.mp hcompile
  exact bind_eq_ok.mpr ⟨document, hparse, bind_eq_ok.mpr
    ⟨content, mapError_eq_ok.mpr (h.compile (mapError_eq_ok.mp hcontent)), htemplate⟩⟩

/-! ## Evaluating -/

theorem agreement : Agreement Retains env env' where
  refl _ _ hx := hx
  bind := by
    intro α β x x' f f' hx hf b hb
    obtain ⟨a, ha, hb⟩ := bind_eq_ok.mp hb
    exact bind_eq_ok.mpr ⟨a, hx a ha, hf a b hb⟩
  call := by
    intro name args v hv
    rw [Environment.call] at hv ⊢
    cases hf : env.functions.get? name with
    | some f =>
      rw [hf] at hv
      rw [h.functions name f hf]
      exact hv
    | none =>
      rw [hf] at hv
      cases hv
  apply := by
    intro op left right v hv
    cases op with
    | matching =>
      have hcompiled {pattern : String} {test : String → Bool}
          (hok : Operator.compiled env.patterns pattern = .ok test) :
          Operator.compiled env'.patterns pattern = .ok test :=
        mapError_eq_ok.mpr (h.patterns pattern test (mapError_eq_ok.mp hok))
      rw [Operator.apply, Operator.matchWhole] at hv ⊢
      split at hv
      · rename_i htexts
        obtain ⟨_, halone, hv⟩ := bind_eq_ok.mp hv
        obtain ⟨_, hanchored, hv⟩ := bind_eq_ok.mp hv
        rw [if_pos htexts]
        exact bind_eq_ok.mpr ⟨_, hcompiled halone, bind_eq_ok.mpr ⟨_, hcompiled hanchored, hv⟩⟩
      · cases hv
    | _ => exact hv
  range := by
    intro first last firstText lastText _ hv
    have hlimit := h.rangeLength
    unfold checkRange at hv ⊢
    split at hv
    · cases hv
    · rw [if_neg (by omega)]

theorem readVariable (hcaller : CallerExtends env caller caller') {scope : Scope}
    (hscope : scope.caller = caller) (name : String) :
    Retains (env.readVariable scope name) (env'.readVariable (scope.withCaller caller') name) := by
  subst hscope
  intro v hv
  unfold Environment.readVariable at hv ⊢
  cases hlookup : scope.lookup name with
  | some found =>
    rw [hlookup] at hv
    rw [hcaller.lookup hlookup]
    exact hv
  | none =>
    rw [hlookup] at hv
    cases hstrict : env.config.strictVariables with
    | true =>
      rw [hstrict] at hv
      cases hv
    | false =>
      have hstrict' : env'.config.strictVariables = false := by
        cases h' : env'.config.strictVariables with
        | true => exact absurd (h.strict h') (by simp [hstrict])
        | false => rfl
      rw [hcaller.eq_of_lenient hstrict, hlookup, hstrict']
      rw [hstrict] at hv
      exact hv

theorem evaluate (hcaller : CallerExtends env caller caller') {scope : Scope}
    (hscope : scope.caller = caller) (e : Expr) :
    Retains (env.evaluate scope e) (env'.evaluate (scope.withCaller caller') e) :=
  h.agreement.evaluate scope _ e fun name _ => h.readVariable hcaller hscope name

/-! ## Rendering -/

variable {σ : Type} [Writer σ]

theorem simulation (hcaller : CallerExtends env caller caller') {included included' : String → Run σ → Outcome σ}
    (hincluded : ∀ name run run', SameBut caller caller' run run' →
      SucceedAlike caller caller' (included name run) (included' name run')) :
    Simulation (fun _ => True) env env' included included' (SameBut caller caller')
      (SucceedAlike caller caller') where
  done hrun _ := ⟨hrun, rfl⟩
  andThen := by
    intro o o' next next' ho hnext hdone
    unfold Outcome.andThen at hdone ⊢
    cases hfailure : o.failure with
    | some e =>
      rw [hfailure] at hdone
      exact absurd (hfailure.symm.trans hdone) nofun
    | none =>
      rw [hfailure] at hdone
      obtain ⟨hrun, hfailure'⟩ := ho hfailure
      rw [hfailure']
      exact hnext _ _ hrun hdone
  write := by
    rintro run _ text ⟨hrun, rfl⟩ hdone
    exact ⟨⟨hrun, rfl⟩, hdone⟩
  withValue := by
    rintro run _ next next' directive position e - ⟨hrun, rfl⟩ hnext hdone
    unfold Run.withValue at hdone ⊢
    cases hv : env.evaluate run.scope e with
    | error cause =>
      rw [hv] at hdone
      cases hdone
    | ok v =>
      rw [hv] at hdone
      rw [h.evaluate hcaller hrun e v hv]
      exact hnext v hdone
  set := by
    rintro run _ name value ⟨hrun, rfl⟩
    exact ⟨(Scope.caller_set ..).trans hrun, by rw [Scope.withCaller_set]⟩
  push := by
    rintro run _ ⟨hrun, rfl⟩
    exact ⟨hrun, rfl⟩
  pop ho := ho.mapScope (fun _ => rfl) fun _ => rfl
  included name := hincluded name _ _

theorem renderUpTo (hcaller : CallerExtends env caller caller') {n n' : Nat} (hn : n ≤ n')
    (content : Content) {run run' : Run σ} (hrun : SameBut caller caller' run run') :
    SucceedAlike caller caller' (env.renderUpTo n content run) (env'.renderUpTo n' content run') := by
  induction n generalizing n' content run run' with
  | zero =>
    have hfails (included' : String → Run σ → Outcome σ) (name : String) (run run' : Run σ)
        (_ : SameBut caller caller' run run') : SucceedAlike caller caller'
          (run.fail (.recursiveInclusion name env.config.maxIncludeDepth)) (included' name run') :=
      fun hdone => nomatch hdone
    cases n' <;> exact (h.simulation hcaller (hfails _)).nodes content (fun _ _ => trivial) hrun
  | succ n ih =>
    obtain ⟨m, rfl⟩ : ∃ m, n' = m + 1 := ⟨n' - 1, by omega⟩
    refine (h.simulation hcaller ?_).nodes content (fun _ _ => trivial) hrun
    rintro name run _ ⟨hrun, rfl⟩ hdone
    cases hbody : env.compileNamed name with
    | error cause =>
      simp only [hbody] at hdone
      cases hdone
    | ok body =>
      simp only [hbody, h.compileNamed hbody] at hdone ⊢
      have hentered : SameBut caller caller' { run with scope := run.scope.enter }
          { run with scope := (run.scope.withCaller caller').enter } := ⟨hrun, rfl⟩
      exact (ih (Nat.le_of_succ_le_succ hn) body hentered).mapScope (fun _ => rfl) (fun _ => rfl) hdone

theorem renderContent (hcaller : CallerExtends env caller caller') (content : Content) {run : Run σ}
    (hrun : run.scope.caller = caller) (hdone : (env.renderContent content run).failure = none) :
    let run' : Run σ := { run with scope := run.scope.withCaller caller' }
    (env'.renderContent content run').failure = none ∧
      (env'.renderContent content run').run.sink = (env.renderContent content run).run.sink := by
  have hn := Nat.sub_le_sub_right h.includeDepth run.scope.includeDepth
  obtain ⟨⟨-, hsame⟩, hfailure⟩ := h.renderUpTo hcaller hn content ⟨hrun, rfl⟩ hdone
  exact ⟨hfailure, congrArg (·.sink) hsame⟩

end Environment.Extends

/-- A template that can be made and rendered still can in an environment that extends the
    first one, with the same content and output. -/
theorem success_of_extends {env env' : Environment} (h : env.Extends env') {source : String}
    {template : Template} (hsource : env.templateOfSource source = .ok template)
    {caller caller' : Table Value} (hcaller : CallerExtends env caller caller') :
    env'.templateOfSource source = .ok template ∧
      ∀ limit, (template.render env caller limit).failure = none →
        (template.render env' caller' limit).failure = none ∧
          (template.render env' caller' limit).run.sink = (template.render env caller limit).run.sink :=
  ⟨h.templateOfSource hsource, fun _ hdone => h.renderContent hcaller template.content rfl hdone⟩

/-- A strict environment without templates, and a lenient one that has some, with a caller
    who defines more. -/
theorem success_of_lenient_loader :
    ∃ env env' : Environment, ∃ template : Template, env.Extends env' ∧
      env'.load "t" = .ok "*" ∧ env'.config.strictVariables = false ∧
      env'.templateOfSource "\x7b\x7ba\x7d\x7d" = .ok template ∧
      (template.render env' [("a", .int 1), ("b", .int 2)]).failure = none ∧
      (template.render env' [("a", .int 1), ("b", .int 2)]).run.sink =
        (template.render env [("a", .int 1)]).run.sink := by
  let env : Environment := {}
  let env' : Environment :=
    { load := Loader.ofTable [("t", "*")], config := { strictVariables := false } }
  let template : Template := { content := [.output ⟨0, 1, 1⟩ (.var "a")] }
  have hextends : env.Extends env' :=
    { load := nofun
      functions := fun _ _ hf => hf
      patterns := fun _ _ hp => hp
      includeDepth := Nat.le_refl _
      inheritanceDepth := Nat.le_refl _
      rangeLength := Nat.le_refl _
      strict := fun _ => rfl }
  have hsource : env.templateOfSource "\x7b\x7ba\x7d\x7d" = .ok template := by with_unfolding_all rfl
  have hmore : ∀ name v, Table.get? name [("a", Value.int 1)] = some v →
      Table.get? name [("a", .int 1), ("b", .int 2)] = some v := by
    intro name v hv
    by_cases ha : "a" = name
    · simpa [Table.get?, ha] using hv
    · simp [Table.get?, ha] at hv
  have hvalue : env.evaluate { caller := [("a", .int 1)] } (.var "a") = .ok (.int 1) := by
    rw [Environment.evaluate]
    with_unfolding_all rfl
  have hdone : (template.render env [("a", .int 1)]).failure = none := by
    show (env.renderNodes _ [.output ⟨0, 1, 1⟩ (.var "a")] _).failure = none
    rw [Environment.renderNodes, Environment.renderNode, hvalue]
    rfl
  obtain ⟨hsource', hrender⟩ := success_of_extends hextends hsource (.inr ⟨rfl, hmore⟩)
  obtain ⟨hdone', hsink⟩ := hrender none hdone
  exact ⟨env, env', template, hextends, rfl, rfl, hsource', hdone', hsink⟩

end TemplateEngine
