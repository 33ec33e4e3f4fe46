/-
  TemplateEngine.Render — writing content into a sink.

  Nodes are rendered in order and the first failure ends the run; what was written before
  stays written, and frames and include depth are as they were when the failing statement
  began. A loop gives each member of its collection a frame of its own, with the loop's
  variables and its state under `loop`. An included template is compiled when it is
  reached and shares the scope; inclusions nest up to a limit, which also ends a circle of
  them.
-/

import TemplateEngine.Evaluate
import TemplateEngine.Inheritance
import TemplateEngine.Sink

namespace TemplateEngine

inductive RenderError where
  | calculate (directive : Directive) (position : Position) (cause : CalculateError)
  | inclusion (name : String) (cause : CompileError)
  | recursiveInclusion (name : String) (maxDepth : Nat)
  | sinkFull
  deriving DecidableEq, Repr

def RenderError.message : RenderError → String
  | calculate directive position cause =>
    "Error rendering '" ++ directive.word ++ "' at line " ++ toString position.line ++ ", column "
      ++ toString position.column ++ ": " ++ cause.message
  | inclusion name cause => "Cannot include '" ++ name ++ "': " ++ cause.message
  | recursiveInclusion name maxDepth =>
    "Recursive include detected (depth > " ++ toString maxDepth ++ "): " ++ name
  | sinkFull => "I/O error: sink full"

/-- What a run has at hand: the variables in scope and the sink. -/
structure Run (σ : Type := Sink) where
  scope : Scope
  sink : σ

/-- A run that has come to an end, by a failure or by being done. -/
structure Outcome (σ : Type := Sink) where
  run : Run σ
  failure : Option RenderError := none

variable {σ : Type}

namespace Outcome

/-- Goes on unless there was a failure. -/
def andThen (o : Outcome σ) (next : Run σ → Outcome σ) : Outcome σ :=
  match o.failure with
  | some _ => o
  | none => next o.run

/-- Changes the scope, whether there was a failure or not. -/
def mapScope (o : Outcome σ) (f : Scope → Scope) : Outcome σ :=
  { o with run := { o.run with scope := f o.run.scope } }

end Outcome

namespace Run

def fail (run : Run σ) (e : RenderError) : Outcome σ := { run, failure := some e }

def write [Writer σ] (run : Run σ) (text : String) : Outcome σ :=
  let (sink, complete) := Writer.write run.sink text
  { run := { run with sink }, failure := if complete then none else some .sinkFull }

/-- Writes texts in their order, up to the first that is not taken whole. -/
def writeEach [Writer σ] (run : Run σ) : List String → Outcome σ
  | [] => { run }
  | text :: rest => (run.write text).andThen fun run => run.writeEach rest

/-- Goes on with the value of a calculation that belongs to a directive. -/
def withValue (run : Run σ) (directive : Directive) (position : Position)
    (calculation : Calculation) (next : Value → Outcome σ) : Outcome σ :=
  match calculation with
  | .ok v => next v
  | .error cause => run.fail (.calculate directive position cause)

end Run

/-! ## Loops -/

/-- The members of a collection, with their keys. Null has none, and any other value that
    is no collection is its own single member. -/
def Value.members : Value → List (Value × Value)
  | null => []
  | list items => items.mapIdx fun i v => (.ofNat i, v)
  | map entries => entries.map fun e => (.string e.1, e.2)
  | single => [(.int 0, single)]

/-- The state of a loop of `length` rounds in round `index`. -/
def loopState (index length : Nat) : Value :=
  .map [("index", .ofNat index), ("index1", .ofNat (index + 1)), ("first", .bool (index == 0)),
    ("last", .bool (index + 1 == length)), ("length", .ofNat length)]

def Target.bind (target : Target) (key value : Value) (scope : Scope) : Scope :=
  match target with
  | .value name => scope.set name value
  | .pair keyName valueName => (scope.set keyName key).set valueName value

/-- One round: its own frame, the loop's variables, and the loop's state over them. -/
def Run.round (run : Run σ) (target : Target) (index length : Nat) (member : Value × Value)
    (body : Run σ → Outcome σ) : Outcome σ :=
  let scope := (target.bind member.1 member.2 run.scope.push).set "loop" (loopState index length)
  (body { run with scope }).mapScope Scope.pop

/-- The rounds of a loop from round `index` on. -/
def Run.rounds (target : Target) (length : Nat) (body : Run σ → Outcome σ) :
    Nat → List (Value × Value) → Run σ → Outcome σ
  | _, [], run => { run }
  | index, member :: rest, run =>
    (run.round target index length member body).andThen (rounds target length body (index + 1) rest)

/-! ## Content -/

namespace Environment

variable [Writer σ]

mutual

/-- Renders a node; `included` renders a template by its name. -/
def renderNode (env : Environment) (included : String → Run σ → Outcome σ) :
    Node → Run σ → Outcome σ
  | .text text, run => run.write text
  | .output position e, run =>
    run.withValue .output position (env.evaluate run.scope e) fun v => run.writeEach v.pieces
  | .block _ _ content, run => renderNodes env included content run
  | .inclusion _ name, run => included name run
  | .conditional position branches otherwise, run =>
    renderBranches env included position (match otherwise with
      | none => fun run => { run }
      | some content => fun run => renderNodes env included content run) branches run
  | .loop position target collection filters body, run =>
    let value := do env.passThrough run.scope (← env.evaluate run.scope collection) filters
    run.withValue .loop position value fun v =>
      Run.rounds target v.members.length (fun run => renderNodes env included body run) 0 v.members run
  | .assignment position name e, run =>
    run.withValue .assignment position (env.evaluate run.scope e) fun v =>
      { run := { run with scope := run.scope.set name v } }

def renderNodes (env : Environment) (included : String → Run σ → Outcome σ) :
    Content → Run σ → Outcome σ
  | [], run => { run }
  | node :: rest, run =>
    (renderNode env included node run).andThen fun run => renderNodes env included rest run

/-- Renders the first branch whose condition holds, or `otherwise`. -/
def renderBranches (env : Environment) (included : String → Run σ → Outcome σ)
    (position : Position) (otherwise : Run σ → Outcome σ) :
    List (Expr × Content) → Run σ → Outcome σ
  | [], run => otherwise run
  | (condition, content) :: rest, run =>
    run.withValue .conditional position (env.evaluate run.scope condition) fun v =>
      if v.isTruthy then renderNodes env included content run
      else renderBranches env included position otherwise rest run

end

/-- Renders content inside which inclusions may nest up to `n` deep. -/
def renderUpTo (env : Environment) : Nat → Content → Run σ → Outcome σ
  | 0, content, run =>
    env.renderNodes
      (fun name run => run.fail (.recursiveInclusion name env.config.maxIncludeDepth)) content run
  | n + 1, content, run =>
    env.renderNodes
      (fun name run =>
        match env.compileNamed name with
        | .error cause => run.fail (.inclusion name cause)
        | .ok content =>
          (renderUpTo env n content { run with scope := run.scope.enter }).mapScope Scope.leave)
      content run

/-- Renders content in a scope that may be inside some inclusions already. -/
def renderContent (env : Environment) (content : Content) (run : Run σ) : Outcome σ :=
  env.renderUpTo (env.config.maxIncludeDepth - run.scope.includeDepth) content run

end Environment

end TemplateEngine
