/-
  TemplateEngine.Proofs.Rendering.Evaluations — which evaluation a failure is blamed on.

  Nodes evaluate expressions, each for a directive of its own, and a run fails at the first
  one that fails. What a node does with a value does not depend on how it was calculated. So
  rendering is a course of evaluations that are asked for one after the other (`Course`):
  it is built without evaluating anything, and the environment then answers. The
  evaluations on the way are the log of the run.

  Proved, for every writer, environment and content:
  - `leadsTo_renderContent`: answered by the environment, the course of a content comes to
    what rendering the content comes to, and its evaluations are those of nodes that are
    there or in a template that is included.
  - `LeadsTo.failure_iff`: a course fails by an evaluation exactly if that is the last one
    and all before it succeed.
  - `calculation_blamed`: both for rendering.
-/

import TemplateEngine.Proofs.Rendering.Failures

namespace TemplateEngine

/-! ## Evaluations -/

/-- What a node wants to know: the value of an expression, or what the filters of a loop make
    of a value. -/
inductive Question where
  | value (e : Expr)
  | filtered (v : Value) (filters : List Expr)

structure Evaluation where
  node : Node
  /-- The directive and the position that a failure is blamed on. -/
  directive : Directive
  position : Position
  scope : Scope
  question : Question

def Evaluation.result (env : Environment) (e : Evaluation) : Calculation :=
  match e.question with
  | .value x => env.evaluate e.scope x
  | .filtered v filters => env.passThrough e.scope v filters

/-- The evaluation is one of its node, for the node's directive at the node's position. -/
inductive Evaluation.Asked (env : Environment) : Evaluation → Prop
  | output {position : Position} {x : Expr} {scope : Scope} :
      Asked env ⟨.output position x, .output, position, scope, .value x⟩
  | condition {position : Position} {branches : List (Expr × Content)} {otherwise : Option Content}
      {scope : Scope} {branch : Expr × Content} : branch ∈ branches →
        Asked env ⟨.conditional position branches otherwise, .conditional, position, scope, .value branch.1⟩
  | collection {position : Position} {target : Target} {collection : Expr} {filters : List Expr}
      {body : Content} {scope : Scope} :
        Asked env ⟨.loop position target collection filters body, .loop, position, scope, .value collection⟩
  | filters {position : Position} {target : Target} {collection : Expr} {filters : List Expr}
      {body : Content} {scope : Scope} {v : Value} : env.evaluate scope collection = .ok v →
        Asked env ⟨.loop position target collection filters body, .loop, position, scope, .filtered v filters⟩
  | assignment {position : Position} {name : String} {x : Expr} {scope : Scope} :
      Asked env ⟨.assignment position name x, .assignment, position, scope, .value x⟩

/-- The node stands in the content or in a template that is included there, at any depth. -/
inductive Reaches (env : Environment) (node : Node) : Content → Prop
  | here {content : Content} : Occurs node content → Reaches env node content
  | included {content body : Content} {position : Position} {name : String} :
      Occurs (.inclusion position name) content → env.compileNamed name = .ok body →
        Reaches env node body → Reaches env node content

/-! ## Courses -/

/-- A run that waits for the answers to its evaluations: it is over, or asks for one and goes
    on with its value. If there is none it fails as the last run has it. -/
inductive Course (σ : Type) where
  | ends (o : Outcome σ)
  | asks (e : Evaluation) (run : Run σ) (next : Value → Course σ)

namespace Course

variable {σ : Type}

def andThen (next : Run σ → Course σ) : Course σ → Course σ
  | ends o => if o.failure.isSome then ends o else next o.run
  | asks e run answer => asks e run fun v => (answer v).andThen next

def mapScope (f : Scope → Scope) : Course σ → Course σ
  | ends o => ends (o.mapScope f)
  | asks e run answer => asks e { run with scope := f run.scope } fun v => (answer v).mapScope f

def rounds (target : Target) (length : Nat) (body : Run σ → Course σ) :
    Nat → List (Value × Value) → Run σ → Course σ
  | _, [], run => ends { run }
  | index, member :: rest, run =>
    ((body { run with scope := run.scope.forRound target index length member }).mapScope Scope.pop).andThen
      (rounds target length body (index + 1) rest)

/-- What the run comes to if the environment answers. -/
def outcome (env : Environment) : Course σ → Outcome σ
  | ends o => o
  | asks e run answer =>
    match e.result env with
    | .ok v => (answer v).outcome env
    | .error cause => run.fail (.calculate e.directive e.position cause)

/-- The evaluations that are asked for if the environment answers, in their order. -/
def log (env : Environment) : Course σ → List Evaluation
  | ends _ => []
  | asks e _ answer =>
    e :: match e.result env with
      | .ok v => (answer v).log env
      | .error _ => []

end Course

section Content

variable {σ : Type} [Writer σ] (included : String → Run σ → Course σ)

mutual

/-- The course of a node; `included` has those of the templates. -/
def Node.course : Node → Run σ → Course σ
  | .text text, run => .ends (run.write text)
  | .output position x, run =>
    .asks ⟨.output position x, .output, position, run.scope, .value x⟩ run fun v => .ends (run.writeEach v.pieces)
  | .block _ _ content, run => Content.course content run
  | .inclusion _ name, run => included name run
  | .conditional position branches otherwise, run =>
    Content.courseOfBranches (.conditional position branches otherwise) position (match otherwise with
      | none => fun run => .ends { run }
      | some content => fun run => Content.course content run) branches run
  | .loop position target collection filters body, run =>
    .asks ⟨.loop position target collection filters body, .loop, position, run.scope, .value collection⟩ run
      fun v =>
        .asks ⟨.loop position target collection filters body, .loop, position, run.scope, .filtered v filters⟩ run
          fun v => .rounds target v.members.length (fun run => Content.course body run) 0 v.members run
  | .assignment position name x, run =>
    .asks ⟨.assignment position name x, .assignment, position, run.scope, .value x⟩ run fun v =>
      .ends { run := { run with scope := run.scope.set name v } }

def Content.course : List Node → Run σ → Course σ
  | [], run => .ends { run }
  | node :: rest, run => (node.course run).andThen fun run => Content.course rest run

/-- The course of a conditional from some of its branches on. -/
def Content.courseOfBranches (node : Node) (position : Position) (otherwise : Run σ → Course σ) :
    List (Expr × List Node) → Run σ → Course σ
  | [], run => otherwise run
  | (condition, content) :: rest, run =>
    .asks ⟨node, .conditional, position, run.scope, .value condition⟩ run fun v =>
      if v.isTruthy then Content.course content run
      else Content.courseOfBranches node position otherwise rest run

end

end Content

namespace Environment

variable {σ : Type} [Writer σ] (env : Environment)

/-- The course of content inside which inclusions may nest up to `n` deep. -/
def courseUpTo : Nat → Content → Run σ → Course σ
  | 0, content, run =>
    Content.course (fun name run => .ends (run.fail (.recursiveInclusion name env.config.maxIncludeDepth)))
      content run
  | n + 1, content, run =>
    Content.course
      (fun name run =>
        match env.compileNamed name with
        | .error cause => .ends (run.fail (.inclusion name cause))
        | .ok content => (courseUpTo n content { run with scope := run.scope.enter }).mapScope Scope.leave)
      content run

def course (content : Content) (run : Run σ) : Course σ :=
  env.courseUpTo (env.config.maxIncludeDepth - run.scope.includeDepth) content run

end Environment

/-! ## Where courses lead -/

/-- With the answers of the environment the course comes to the outcome. Its evaluations have
    the property, and no failure but that of an evaluation is blamed on a calculation. -/
inductive LeadsTo {σ : Type} (env : Environment) (P : Evaluation → Prop) : Course σ → Outcome σ → Prop
  | ends {o : Outcome σ} :
      (∀ directive position cause, o.failure ≠ some (.calculate directive position cause)) →
        LeadsTo env P (.ends o) o
  | fails {e : Evaluation} {run : Run σ} {answer : Value → Course σ} {cause : CalculateError} :
      P e → e.result env = .error cause →
        LeadsTo env P (.asks e run answer) (run.fail (.calculate e.directive e.position cause))
  | answered {e : Evaluation} {run : Run σ} {answer : Value → Course σ} {v : Value} {o : Outcome σ} :
      P e → e.result env = .ok v → LeadsTo env P (answer v) o → LeadsTo env P (.asks e run answer) o

namespace LeadsTo

variable {σ : Type} {env : Environment} {P : Evaluation → Prop} {c : Course σ} {o : Outcome σ}

theorem outcome_eq (h : LeadsTo env P c o) : c.outcome env = o := by
  induction h with
  | ends _ => rfl
  | fails _ hresult => rw [Course.outcome, hresult]
  | answered _ hresult _ ih => rw [Course.outcome, hresult]; exact ih

theorem of_mem_log (h : LeadsTo env P c o) : ∀ e ∈ c.log env, P e := by
  induction h with
  | ends _ => exact fun _ he => nomatch he
  | fails hP hresult =>
    rw [Course.log, hresult]
    exact List.forall_mem_singleton.mpr hP
  | answered hP hresult _ ih =>
    rw [Course.log, hresult]
    exact List.forall_mem_cons.mpr ⟨hP, ih⟩

/-- A failure is that of the last evaluation, behind others that succeed. -/
theorem failure_iff (h : LeadsTo env P c o) (directive : Directive) (position : Position) (cause : CalculateError) :
    o.failure = some (.calculate directive position cause) ↔
      ∃ earlier last, c.log env = earlier ++ [last] ∧ (∀ e ∈ earlier, ∃ v, e.result env = .ok v) ∧
        last.result env = .error cause ∧ last.directive = directive ∧ last.position = position := by
  induction h with
  | ends hother =>
    constructor
    · exact fun hfailure => absurd hfailure (hother _ _ _)
    · rintro ⟨earlier, last, hlog, -⟩
      exact absurd hlog.symm (List.append_ne_nil_of_right_ne_nil earlier (List.cons_ne_nil last []))
  | @fails e run answer cause' _ hresult =>
    have hsingle : (Course.asks e run answer).log env = [e] := by rw [Course.log, hresult]
    rw [hsingle]
    constructor
    · intro hfailure
      cases hfailure
      exact ⟨[], e, rfl, nofun, hresult, rfl, rfl⟩
    · rintro ⟨earlier, last, hlog, -, hlast, rfl, rfl⟩
      obtain ⟨-, rfl⟩ := List.append_singleton_inj.mp (show [] ++ [e] = earlier ++ [last] from hlog)
      obtain rfl := Except.error.inj (hresult.symm.trans hlast)
      rfl
  | @answered e run answer v o _ hresult _ ih =>
    have hmore : (Course.asks e run answer).log env = e :: (answer v).log env := by rw [Course.log, hresult]
    rw [hmore, ih]
    constructor
    · rintro ⟨earlier, last, hlog, hearlier, hlast⟩
      exact ⟨e :: earlier, last, congrArg (e :: ·) hlog,
        List.forall_mem_cons.mpr ⟨⟨v, hresult⟩, hearlier⟩, hlast⟩
    · rintro ⟨earlier, last, hlog, hearlier, hlast, hplace⟩
      cases earlier with
      -- the first evaluation has a value, so it is not the last one
      | nil =>
        obtain ⟨rfl, -⟩ := List.cons.inj hlog
        cases hresult.symm.trans hlast
      | cons first earlier =>
        exact ⟨earlier, last, (List.cons.inj hlog).2, (List.forall_mem_cons.mp hearlier).2, hlast, hplace⟩

/-! ### Single things -/

theorem ends_none (run : Run σ) : LeadsTo env P (.ends { run }) { run } :=
  .ends fun _ _ _ hfailure => nomatch hfailure

theorem write [Writer σ] (run : Run σ) (text : String) :
    LeadsTo env P (.ends (run.write text)) (run.write text) :=
  .ends fun _ _ _ hfailure => nomatch Run.eq_sinkFull_of_write hfailure

theorem writeEach [Writer σ] (run : Run σ) (texts : List String) :
    LeadsTo env P (.ends (run.writeEach texts)) (run.writeEach texts) :=
  .ends fun _ _ _ hfailure => nomatch Run.eq_sinkFull_of_writeEach hfailure

theorem asks {e : Evaluation} (hP : P e) {run : Run σ} {answer : Value → Course σ} {next : Value → Outcome σ}
    (hnext : ∀ v, e.result env = .ok v → LeadsTo env P (answer v) (next v)) :
    LeadsTo env P (.asks e run answer) (run.withValue e.directive e.position (e.result env) next) := by
  cases hresult : e.result env with
  | ok v => exact .answered hP hresult (hnext v hresult)
  | error cause => exact .fails hP hresult

theorem andThen (h : LeadsTo env P c o) {next : Run σ → Course σ} {next' : Run σ → Outcome σ}
    (hnext : ∀ run, LeadsTo env P (next run) (next' run)) : LeadsTo env P (c.andThen next) (o.andThen next') := by
  induction h with
  | @ends o hother =>
    obtain ⟨run, failure⟩ := o
    cases failure with
    | none => exact hnext run
    | some e => exact .ends hother
  | fails hP hresult => exact .fails hP hresult
  | answered hP hresult _ ih => exact .answered hP hresult ih

theorem mapScope (h : LeadsTo env P c o) (f : Scope → Scope) : LeadsTo env P (c.mapScope f) (o.mapScope f) := by
  induction h with
  | ends hother => exact .ends hother
  | fails hP hresult => exact .fails hP hresult
  | answered hP hresult _ ih => exact .answered hP hresult ih

theorem rounds {body : Run σ → Course σ} {body' : Run σ → Outcome σ}
    (hbody : ∀ run, LeadsTo env P (body run) (body' run)) (target : Target) (length index : Nat)
    (members : List (Value × Value)) (run : Run σ) :
    LeadsTo env P (Course.rounds target length body index members run)
      (Run.rounds target length body' index members run) := by
  induction members generalizing index run with
  | nil => exact ends_none run
  | cons member rest ih => exact ((hbody _).mapScope Scope.pop).andThen (ih (index + 1))

end LeadsTo

/-! ## The courses of contents -/

theorem Run.withValue_bind {σ : Type} (run : Run σ) (directive : Directive) (position : Position)
    (x : Calculation) (f : Value → Calculation) (next : Value → Outcome σ) :
    run.withValue directive position (x >>= f) next =
      run.withValue directive position x fun v => run.withValue directive position (f v) next := by
  cases x <;> rfl

/-- The evaluations of the nodes of the content have the property, and inclusions there lead
    to the outcomes that they have. -/
structure Answered {σ : Type} (env : Environment) (P : Evaluation → Prop)
    (included : String → Run σ → Course σ) (included' : String → Run σ → Outcome σ) (content : Content) :
    Prop where
  asked : ∀ e, e.Asked env → Occurs e.node content → P e
  included : ∀ position name, Occurs (.inclusion position name) content →
    ∀ run, LeadsTo env P (included name run) (included' name run)

namespace Answered

variable {σ : Type} {env : Environment} {P : Evaluation → Prop} {included : String → Run σ → Course σ}
  {included' : String → Run σ → Outcome σ} {content : Content}

theorem mono {content' : Content} (h : Answered env P included included' content) (hsub : content' ⊆ content) :
    Answered env P included included' content' where
  asked := fun e he hnode => h.asked e he (hnode.mono hsub)
  included := fun position name hname => h.included position name (hname.mono hsub)

theorem part {node : Node} {part : Content} (h : Answered env P included included' [node])
    (hpart : part ∈ node.contents) : Answered env P included included' part where
  asked := fun e he hnode => h.asked e he (.inside (List.mem_singleton_self node) hpart hnode)
  included := fun position name hname =>
    h.included position name (.inside (List.mem_singleton_self node) hpart hname)

theorem here {node : Node} (h : Answered env P included included' [node]) {e : Evaluation} (he : e.Asked env)
    (hnode : e.node = node) : P e := h.asked e he (.here (hnode ▸ List.mem_singleton_self _))

variable [Writer σ]

mutual

theorem node : ∀ (node : Node), Answered env P included included' [node] → ∀ run,
    LeadsTo env P (node.course included run) (env.renderNode included' node run)
  | .text text, _, run => by
    rw [Node.course, Environment.renderNode]
    exact .write run text
  | .output position x, h, run => by
    rw [Node.course, Environment.renderNode]
    exact .asks (h.here .output rfl) fun v _ => .writeEach run v.pieces
  | .block position name content, h, run => by
    rw [Node.course, Environment.renderNode]
    exact nodes content (h.part (List.mem_singleton_self content)) run
  | .inclusion position name, h, run => by
    rw [Node.course, Environment.renderNode]
    exact h.included position name (.here (List.mem_singleton_self _)) run
  | .conditional position branches none, h, run => by
    rw [Node.course, Environment.renderNode]
    exact conditional h .ends_none branches (List.Subset.refl _) run
  | .conditional position branches (some content), h, run => by
    rw [Node.course, Environment.renderNode]
    have hcontent := h.part (List.mem_append_right _ (List.mem_singleton_self content))
    exact conditional h (nodes content hcontent) branches (List.Subset.refl _) run
  | .loop position target collection filters body, h, run => by
    rw [Node.course, Environment.renderNode, Run.withValue_bind]
    have hbody := h.part (List.mem_singleton_self body)
    exact .asks (h.here .collection rfl) fun v hv => .asks (h.here (.filters hv) rfl) fun v _ =>
      .rounds (nodes body hbody) target v.members.length 0 v.members run
  | .assignment position name x, h, run => by
    rw [Node.course, Environment.renderNode]
    exact .asks (h.here .assignment rfl) fun v _ => .ends_none _

theorem nodes : ∀ (content : Content), Answered env P included included' content → ∀ run,
    LeadsTo env P (Content.course included content run) (env.renderNodes included' content run)
  | [], _, run => by
    rw [Content.course, Environment.renderNodes]
    exact .ends_none run
  | first :: rest, h, run => by
    rw [Content.course, Environment.renderNodes]
    exact (node first (h.mono (by simp)) run).andThen (nodes rest (h.mono (by simp)))

theorem conditional {position : Position} {all : List (Expr × Content)} {last : Option Content}
    (h : Answered env P included included' [.conditional position all last])
    {otherwise : Run σ → Course σ} {otherwise' : Run σ → Outcome σ}
    (ho : ∀ run, LeadsTo env P (otherwise run) (otherwise' run)) :
    ∀ branches : List (Expr × Content), branches ⊆ all → ∀ run,
      LeadsTo env P
        (Content.courseOfBranches included (.conditional position all last) position otherwise branches run)
        (env.renderBranches included' position otherwise' branches run)
  | [], _, run => by
    rw [Content.courseOfBranches, Environment.renderBranches]
    exact ho run
  | (condition, content) :: rest, hsub, run => by
    rw [Content.courseOfBranches, Environment.renderBranches]
    obtain ⟨hmem, hrest⟩ := List.cons_subset.mp hsub
    refine .asks (h.here (.condition hmem) rfl) fun v _ => ?_
    split
    · exact nodes content (h.part (List.mem_append_left _ (List.mem_map_of_mem hmem))) run
    · exact conditional h ho rest hrest run

end

end Answered

namespace Environment

variable {σ : Type} [Writer σ] (env : Environment) {P : Evaluation → Prop}

theorem leadsTo_renderUpTo (n : Nat) (content : Content)
    (hP : ∀ e, e.Asked env → Reaches env e.node content → P e) (run : Run σ) :
    LeadsTo env P (env.courseUpTo n content run) (env.renderUpTo n content run) := by
  induction n generalizing content run with
  | zero =>
    refine Answered.nodes content ⟨fun e he hnode => hP e he (.here hnode), ?_⟩ run
    exact fun _ _ _ run => .ends fun _ _ _ hfailure => nomatch hfailure
  | succ n ih =>
    refine Answered.nodes content ⟨fun e he hnode => hP e he (.here hnode), ?_⟩ run
    intro position name hname run
    cases hbody : env.compileNamed name with
    | error cause => exact .ends fun _ _ _ hfailure => nomatch hfailure
    | ok body =>
      exact (ih body (fun e he hnode => hP e he (.included hname hbody hnode)) _).mapScope Scope.leave

theorem leadsTo_renderContent (content : Content) (run : Run σ) :
    LeadsTo env (fun e => e.Asked env ∧ Reaches env e.node content) (env.course content run)
      (env.renderContent content run) :=
  env.leadsTo_renderUpTo _ content (fun _ he hnode => ⟨he, hnode⟩) run

/-- The course of a content, answered by the environment, is what rendering does. It fails by
    a calculation exactly if its last evaluation does, with the same cause and for the
    directive and the position of the node that asks for it, all before it having succeeded. -/
theorem calculation_blamed (content : Content) (run : Run σ) :
    (env.course content run).outcome env = env.renderContent content run ∧
    ∀ directive position cause,
      (env.renderContent content run).failure = some (.calculate directive position cause) ↔
        ∃ earlier last, (env.course content run).log env = earlier ++ [last] ∧
          (∀ e ∈ earlier, ∃ v, e.result env = .ok v) ∧ last.result env = .error cause ∧
          last.directive = directive ∧ last.position = position ∧
          last.Asked env ∧ Reaches env last.node content := by
  have h := env.leadsTo_renderContent content run
  refine ⟨h.outcome_eq, fun directive position cause => (h.failure_iff directive position cause).trans ?_⟩
  refine exists_congr fun earlier => exists_congr fun last => ?_
  constructor
  · rintro ⟨hlog, hearlier, hlast, hdirective, hposition⟩
    obtain ⟨hasked, hnode⟩ := h.of_mem_log last (hlog ▸ List.mem_append_right _ (List.mem_singleton_self last))
    exact ⟨hlog, hearlier, hlast, hdirective, hposition, hasked, hnode⟩
  · rintro ⟨hlog, hearlier, hlast, hdirective, hposition, -, -⟩
    exact ⟨hlog, hearlier, hlast, hdirective, hposition⟩

/-- In the first round of a loop a template is included whose output has no value. It is the
    output that is blamed, at its position in that template. -/
theorem calculation_blamed_included :
    ∃ env : Environment,
      let content : Content :=
        [.loop ⟨0, 1, 1⟩ (.value "v") (.literal (.int 1)) [] [.inclusion ⟨16, 1, 17⟩ "t"]]
      let run : Run := { scope := { caller := [] }, sink := {} }
      (env.renderContent content run).failure =
        some (.calculate .output ⟨1, 1, 2⟩ (.unresolvedVariable "x")) ∧
      ∃ last ∈ (env.course content run).log env, ∃ e, last.node = .output ⟨1, 1, 2⟩ e ∧
        last.result env = .error (.unresolvedVariable "x") ∧ Reaches env last.node content := by
  let env : Environment := { load := Loader.ofTable [("t", "*\x7b\x7bx\x7d\x7d")] }
  refine ⟨env, ?_⟩
  intro content run
  have hbody : env.compileNamed "t" = .ok [.text "*", .output ⟨1, 1, 2⟩ (.var "x")] := by with_unfolding_all rfl
  have hfailure : (env.renderContent content run).failure =
      some (.calculate .output ⟨1, 1, 2⟩ (.unresolvedVariable "x")) := by
    simp only [content, renderContent_eq, renderNodes, renderNode, includeNamed, hbody, evaluate, passThrough]
    with_unfolding_all rfl
  obtain ⟨earlier, last, hlog, -, hlast, hdirective, hposition, hasked, hnode⟩ :=
    ((env.calculation_blamed content run).2 _ _ _).mp hfailure
  refine ⟨hfailure, last, hlog ▸ List.mem_append_right _ (List.mem_singleton_self last), ?_⟩
  cases hasked with
  | output => exact ⟨_, congrArg (Node.output · _) hposition, hlast, hnode⟩
  | condition | collection | filters | assignment => cases hdirective

end Environment

end TemplateEngine
