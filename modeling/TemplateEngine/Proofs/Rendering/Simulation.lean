/-
  TemplateEngine.Proofs.Rendering.Simulation — two renderers side by side.

  Both go through the same content, each in its own environment, with its own writer and
  its own way to include templates. Which runs are `related` and which outcomes `matched`
  is left open. A `Simulation` says that each single thing a renderer does, done by both,
  leads from related runs to matched outcomes. Of the expressions it speaks of those that
  are `asked` only.

  Proved:
  - `Simulation.node` / `Simulation.nodes` / `Simulation.conditional`: then so do whole nodes,
    contents and conditionals whose calculations are asked, and loops over the same members
    (`rounds`).
-/

import TemplateEngine.Proofs.Content.Parts
import TemplateEngine.Render

namespace TemplateEngine

/-- A loop goes over the value of a pipe. -/
theorem Environment.evaluate_pipe (env : Environment) (scope : Scope) (base : Expr) (stages : List Expr) :
    env.evaluate scope (.pipe base stages) =
      (do env.passThrough scope (← env.evaluate scope base) stages) := by
  rw [evaluate]

/-- The expressions that rendering a node evaluates itself. A loop goes over what its filters
    make of its collection. -/
def Node.calculations : Node → List Expr
  | .output _ e => [e]
  | .conditional _ branches _ => branches.map (·.1)
  | .loop _ _ collection filters _ => [.pipe collection filters]
  | .assignment _ _ e => [e]
  | _ => []

/-- A node of the content, at any depth, evaluates the expression. -/
def Calculates (content : Content) (e : Expr) : Prop := ∃ node, Occurs node content ∧ e ∈ node.calculations

namespace Calculates

variable {e : Expr} {content : Content}

theorem mono {content' : Content} (hsub : content ⊆ content') (h : Calculates content e) :
    Calculates content' e := by
  obtain ⟨node, hnode, he⟩ := h
  exact ⟨node, hnode.mono hsub, he⟩

theorem here {node : Node} (he : e ∈ node.calculations) : Calculates [node] e :=
  ⟨node, .here (List.mem_singleton_self node), he⟩

theorem inside {node : Node} (hpart : content ∈ node.contents) (h : Calculates content e) :
    Calculates [node] e := by
  obtain ⟨deep, hdeep, he⟩ := h
  exact ⟨deep, .inside (List.mem_singleton_self node) hpart hdeep, he⟩

end Calculates

variable {σ τ : Type} [Writer σ] [Writer τ]

structure Simulation (asked : Expr → Prop) (env env' : Environment) (included : String → Run σ → Outcome σ)
    (included' : String → Run τ → Outcome τ) (related : Run σ → Run τ → Prop)
    (matched : Outcome σ → Outcome τ → Prop) : Prop where
  done : ∀ {run run'}, related run run' → matched { run } { run := run' }
  andThen : ∀ {o o' next next'}, matched o o' →
    (∀ run run', related run run' → matched (next run) (next' run')) →
      matched (o.andThen next) (o'.andThen next')
  write : ∀ {run run'} (text : String), related run run' → matched (run.write text) (run'.write text)
  withValue : ∀ {run run' next next'} (directive : Directive) (position : Position) (e : Expr),
    asked e → related run run' → (∀ v, matched (next v) (next' v)) →
      matched (run.withValue directive position (env.evaluate run.scope e) next)
        (run'.withValue directive position (env'.evaluate run'.scope e) next')
  set : ∀ {run run'} (name : String) (value : Value), related run run' →
    related { run with scope := run.scope.set name value }
      { run' with scope := run'.scope.set name value }
  push : ∀ {run run'}, related run run' →
    related { run with scope := run.scope.push } { run' with scope := run'.scope.push }
  pop : ∀ {o o'}, matched o o' → matched (o.mapScope Scope.pop) (o'.mapScope Scope.pop)
  included : ∀ {run run'} (name : String), related run run' →
    matched (included name run) (included' name run')

namespace Simulation

variable {asked : Expr → Prop} {env env' : Environment} {included : String → Run σ → Outcome σ}
  {included' : String → Run τ → Outcome τ} {related : Run σ → Run τ → Prop}
  {matched : Outcome σ → Outcome τ → Prop}
  (h : Simulation asked env env' included included' related matched)
include h

/-! ## Loops -/

theorem bind {run : Run σ} {run' : Run τ} (target : Target) (key value : Value)
    (hrun : related run run') :
    related { run with scope := target.bind key value run.scope }
      { run' with scope := target.bind key value run'.scope } := by
  cases target with
  | value name => exact h.set name value hrun
  | pair keyName valueName => exact h.set valueName value (h.set keyName key hrun)

section

variable {body : Run σ → Outcome σ} {body' : Run τ → Outcome τ}
  (hbody : ∀ run run', related run run' → matched (body run) (body' run'))
include hbody

theorem round {run : Run σ} {run' : Run τ} (target : Target) (index length : Nat)
    (member : Value × Value) (hrun : related run run') :
    matched (run.round target index length member body) (run'.round target index length member body') := by
  have hbound := h.bind target member.1 member.2 (h.push hrun)
  exact h.pop (hbody _ _ (h.set "loop" (loopState index length) hbound))

theorem rounds {run : Run σ} {run' : Run τ} (target : Target) (length index : Nat)
    (members : List (Value × Value)) (hrun : related run run') :
    matched (Run.rounds target length body index members run)
      (Run.rounds target length body' index members run') := by
  induction members generalizing index run run' with
  | nil => exact h.done hrun
  | cons member rest ih =>
    exact h.andThen (h.round hbody target index length member hrun) fun _ _ hnext => ih (index + 1) hnext

end

/-! ## Nodes -/

theorem writeEach {run : Run σ} {run' : Run τ} (texts : List String) (hrun : related run run') :
    matched (run.writeEach texts) (run'.writeEach texts) := by
  induction texts generalizing run run' with
  | nil => exact h.done hrun
  | cons text rest ih => exact h.andThen (h.write text hrun) fun _ _ hnext => ih hnext

mutual

theorem node : ∀ (node : Node) {run : Run σ} {run' : Run τ}, (∀ e, Calculates [node] e → asked e) →
    related run run' → matched (env.renderNode included node run) (env'.renderNode included' node run')
  | .text text, run, run', _, hrun => by
    rw [Environment.renderNode, Environment.renderNode]
    exact h.write text hrun
  | .output position e, run, run', hasked, hrun => by
    rw [Environment.renderNode, Environment.renderNode]
    have he : asked e := hasked e (.here (List.mem_singleton_self e))
    exact h.withValue .output position e he hrun fun v => h.writeEach v.pieces hrun
  | .block position name content, run, run', hasked, hrun => by
    rw [Environment.renderNode, Environment.renderNode]
    exact nodes content (fun e he => hasked e (he.inside (List.mem_singleton_self content))) hrun
  | .inclusion position name, run, run', _, hrun => by
    rw [Environment.renderNode, Environment.renderNode]
    exact h.included name hrun
  | .conditional position branches none, run, run', hasked, hrun => by
    rw [Environment.renderNode, Environment.renderNode]
    refine conditional position (fun _ _ hdone => h.done hdone) branches (fun b hb => ⟨?_, fun e he => ?_⟩) hrun
    · exact hasked b.1 (.here (List.mem_map_of_mem hb))
    · exact hasked e (he.inside (List.mem_append_left _ (List.mem_map_of_mem hb)))
  | .conditional position branches (some content), run, run', hasked, hrun => by
    rw [Environment.renderNode, Environment.renderNode]
    have hcontent (e : Expr) (he : Calculates content e) : asked e :=
      hasked e (he.inside (List.mem_append_right _ (List.mem_singleton_self content)))
    refine conditional position (fun _ _ hothers => nodes content hcontent hothers) branches
      (fun b hb => ⟨?_, fun e he => ?_⟩) hrun
    · exact hasked b.1 (.here (List.mem_map_of_mem hb))
    · exact hasked e (he.inside (List.mem_append_left _ (List.mem_map_of_mem hb)))
  | .loop position target collection filters body, run, run', hasked, hrun => by
    rw [Environment.renderNode, Environment.renderNode]
    simp only [← Environment.evaluate_pipe]
    have hpipe : asked (.pipe collection filters) := hasked _ (.here (List.mem_singleton_self _))
    have hbody (e : Expr) (he : Calculates body e) : asked e :=
      hasked e (he.inside (List.mem_singleton_self body))
    exact h.withValue .loop position (.pipe collection filters) hpipe hrun fun v =>
      h.rounds (fun _ _ hround => nodes body hbody hround) target v.members.length 0 v.members hrun
  | .assignment position name e, run, run', hasked, hrun => by
    rw [Environment.renderNode, Environment.renderNode]
    have he : asked e := hasked e (.here (List.mem_singleton_self e))
    exact h.withValue .assignment position e he hrun fun v => h.done (h.set name v hrun)

theorem nodes : ∀ (content : Content) {run : Run σ} {run' : Run τ}, (∀ e, Calculates content e → asked e) →
    related run run' → matched (env.renderNodes included content run) (env'.renderNodes included' content run')
  | [], run, run', _, hrun => by
    rw [Environment.renderNodes, Environment.renderNodes]
    exact h.done hrun
  | first :: rest, run, run', hasked, hrun => by
    rw [Environment.renderNodes, Environment.renderNodes]
    have hfirst (e : Expr) (he : Calculates [first] e) : asked e := hasked e (he.mono (by simp))
    have hrest (e : Expr) (he : Calculates rest e) : asked e := hasked e (he.mono (by simp))
    exact h.andThen (node first hfirst hrun) fun _ _ hnext => nodes rest hrest hnext

theorem conditional (position : Position) {otherwise : Run σ → Outcome σ}
    {otherwise' : Run τ → Outcome τ}
    (hotherwise : ∀ run run', related run run' → matched (otherwise run) (otherwise' run')) :
    ∀ (branches : List (Expr × Content)) {run : Run σ} {run' : Run τ},
      (∀ b ∈ branches, asked b.1 ∧ ∀ e, Calculates b.2 e → asked e) → related run run' →
        matched (env.renderBranches included position otherwise branches run)
          (env'.renderBranches included' position otherwise' branches run')
  | [], run, run', _, hrun => by
    rw [Environment.renderBranches, Environment.renderBranches]
    exact hotherwise _ _ hrun
  | (condition, content) :: rest, run, run', hasked, hrun => by
    rw [Environment.renderBranches, Environment.renderBranches]
    obtain ⟨hcondition, hcontent⟩ := hasked (condition, content) (List.mem_cons_self ..)
    refine h.withValue .conditional position condition hcondition hrun fun v => ?_
    split
    · exact nodes content hcontent hrun
    · exact conditional position hotherwise rest (fun b hb => hasked b (List.mem_cons_of_mem _ hb)) hrun

end

end Simulation

end TemplateEngine
