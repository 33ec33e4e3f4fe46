/-
  TemplateEngine.Proofs.Rendering.Frames — what a run leaves of the scope it was given.

  Rendering pushes a frame for each round of a loop and counts the inclusions it is inside.
  Both go back on every way out of a run, so the caller finds the frames it had, and in
  the innermost one at most some names bound anew.

  Proved, for every writer, environment and content, whether the run fails or not:
  - `renderNode_kept` / `renderNodes_kept` / `renderBranches_kept`: one node, a list of
    nodes and the branches of a conditional keep the scope (`Kept`), if inclusions do.
  - `renderUpTo_kept`: so does content inside any number of inclusions.
  - `frames_after_render`: the frames below the innermost one, their number and the
    inclusion depth are what they were, no name is gone, and only names assigned outside
    every loop, in the content or in a template included there, are bound anew.
-/

import TemplateEngine.Render

namespace TemplateEngine

/-! ## The innermost frame -/

namespace Scope

/-- The frame that names are bound in. -/
def innermost (s : Scope) : Frame := s.inner.headD s.bottom

theorem frames_eq_cons (s : Scope) : s.frames = s.innermost :: s.frames.tail := by
  obtain ⟨_, bottom, inner, _⟩ := s
  cases inner <;> rfl

theorem innermost_set (s : Scope) (name : String) (value : Value) :
    (s.set name value).innermost = Table.put name value s.innermost := by
  obtain ⟨_, bottom, inner, _⟩ := s
  cases inner <;> rfl

theorem tail_frames_set (s : Scope) (name : String) (value : Value) :
    (s.set name value).frames.tail = s.frames.tail := by
  obtain ⟨_, bottom, inner, _⟩ := s
  cases inner <;> rfl

theorem caller_set (s : Scope) (name : String) (value : Value) :
    (s.set name value).caller = s.caller := by
  unfold set
  split <;> rfl

theorem includeDepth_set (s : Scope) (name : String) (value : Value) :
    (s.set name value).includeDepth = s.includeDepth := by
  unfold set
  split <;> rfl

end Scope

/-! ## Keeping a scope -/

/-- What may become of a scope when only names of `bound` are bound in its innermost frame. -/
structure Kept (bound : String → Prop) (before after : Scope) : Prop where
  caller : after.caller = before.caller
  includeDepth : after.includeDepth = before.includeDepth
  outer : after.frames.tail = before.frames.tail
  persists : ∀ name, before.innermost.hasKey name = true → after.innermost.hasKey name = true
  confined : ∀ name, after.innermost.get? name ≠ before.innermost.get? name → bound name

namespace Kept

variable {bound : String → Prop} {s t u : Scope}

theorem refl (s : Scope) : Kept bound s s :=
  ⟨rfl, rfl, rfl, fun _ h => h, fun _ h => absurd rfl h⟩

theorem trans (h : Kept bound s t) (h' : Kept bound t u) : Kept bound s u := by
  refine ⟨h'.caller.trans h.caller, h'.includeDepth.trans h.includeDepth, h'.outer.trans h.outer,
    fun name hn => h'.persists name (h.persists name hn), fun name hn => ?_⟩
  by_cases ht : t.innermost.get? name = s.innermost.get? name
  · exact h'.confined name (by rw [ht]; exact hn)
  · exact h.confined name ht

theorem mono {bound' : String → Prop} (hb : ∀ name, bound name → bound' name) (h : Kept bound s t) :
    Kept bound' s t :=
  ⟨h.caller, h.includeDepth, h.outer, h.persists, fun name hn => hb name (h.confined name hn)⟩

theorem set (s : Scope) {name : String} (value : Value) (hn : bound name) :
    Kept bound s (s.set name value) := by
  refine ⟨s.caller_set name value, s.includeDepth_set name value, s.tail_frames_set name value,
    fun other ho => ?_, fun other ho => ?_⟩
  · rw [s.innermost_set, Table.hasKey, Table.get?_put]
    split
    · rfl
    · exact ho
  · rw [s.innermost_set, Table.get?_put] at ho
    split at ho
    · rename_i he; exact he ▸ hn
    · exact absurd rfl ho

/-- A frame that was pushed can be taken away again, whatever was bound in it. -/
theorem pop_of_push (h : Kept bound s.push t) : t.pop = s := by
  obtain ⟨caller, bottom, inner, depth⟩ := s
  obtain ⟨caller', bottom', inner', depth'⟩ := t
  obtain ⟨hc, hd, ho, -, -⟩ := h
  cases inner' with
  | nil => exact absurd ho.symm (by simp [Scope.frames, Scope.push])
  | cons frame rest =>
    have hr : rest ++ [bottom'] = inner ++ [bottom] := ho
    obtain ⟨hi, hb⟩ := List.append_inj' hr rfl
    cases hc; cases hd; cases hi; cases hb
    rfl

theorem leave_of_enter (h : Kept bound s.enter t) : Kept bound s t.leave := by
  refine ⟨h.caller, ?_, h.outer, h.persists, h.confined⟩
  show t.includeDepth - 1 = s.includeDepth
  rw [h.includeDepth]
  rfl

end Kept

/-! ## Assignments outside loops -/

/-- The contents of a node that are rendered in the frame of the node itself. -/
def Node.parts : Node → List Content
  | .block _ _ content => [content]
  | .conditional _ branches otherwise => branches.map (·.2) ++ otherwise.toList
  | _ => []

/-- `node` stands in the content, at any depth but in no body of a loop. -/
inductive Unlooped (node : Node) : Content → Prop
  | here {content : Content} : node ∈ content → Unlooped node content
  | inside {content part : Content} {around : Node} :
      around ∈ content → part ∈ around.parts → Unlooped node part → Unlooped node content

/-- Rendering the content may bind the name in the frame it starts in. -/
inductive Binds (env : Environment) (name : String) : Content → Prop
  | assignment {content : Content} {position : Position} {e : Expr} :
      Unlooped (.assignment position name e) content → Binds env name content
  | inclusion {content body : Content} {position : Position} {template : String} :
      Unlooped (.inclusion position template) content → env.compileNamed template = .ok body →
        Binds env name body → Binds env name content

/-- `bound` has the names of the content's own assignments, and all that its inclusions
    may bind. -/
structure Covers (reached : String → String → Prop) (bound : String → Prop) (content : Content) :
    Prop where
  assignments : ∀ position name e, Unlooped (.assignment position name e) content → bound name
  inclusions : ∀ position template name, Unlooped (.inclusion position template) content →
    reached template name → bound name

namespace Covers

variable {reached : String → String → Prop} {bound : String → Prop}

theorem of_unlooped {content part : Content} (h : Covers reached bound content)
    (hp : ∀ node, Unlooped node part → Unlooped node content) : Covers reached bound part :=
  ⟨fun p n e hu => h.assignments p n e (hp _ hu), fun p t n hu => h.inclusions p t n (hp _ hu)⟩

theorem part {around : Node} {content : Content} (h : Covers reached bound [around])
    (hp : content ∈ around.parts) : Covers reached bound content :=
  h.of_unlooped fun _ hu => .inside (List.mem_singleton.mpr rfl) hp hu

theorem subset {content content' : Content} (h : Covers reached bound content)
    (hs : ∀ node ∈ content', node ∈ content) : Covers reached bound content' := by
  refine h.of_unlooped fun node hu => ?_
  cases hu with
  | here hm => exact .here (hs _ hm)
  | inside hm hp hi => exact .inside (hs _ hm) hp hi

/-- Inside the frame of a round every name may be bound. -/
theorem all (content : Content) : Covers reached (fun _ => True) content :=
  ⟨fun _ _ _ _ => trivial, fun _ _ _ _ _ => trivial⟩

end Covers

/-! ## Loops -/

section Loops

variable {σ : Type}

theorem Kept.bind (target : Target) (key value : Value) (s : Scope) :
    Kept (fun _ => True) s (target.bind key value s) := by
  cases target with
  | value name => exact .set s value trivial
  | pair keyName valueName => exact (Kept.set s key trivial).trans (.set _ value trivial)

theorem Kept.andThen {bound : String → Prop} {s : Scope} {o : Outcome σ} {next : Run σ → Outcome σ}
    (ho : Kept bound s o.run.scope) (hnext : ∀ run, Kept bound run.scope (next run).run.scope) :
    Kept bound s (o.andThen next).run.scope := by
  unfold Outcome.andThen
  split
  · exact ho
  · exact ho.trans (hnext _)

/-- A value is there or the run ends with the scope as it is. -/
theorem Kept.withValue {bound : String → Prop} (run : Run σ) (directive : Directive)
    (position : Position) (calculation : Calculation) {next : Value → Outcome σ}
    (hnext : ∀ v, Kept bound run.scope (next v).run.scope) :
    Kept bound run.scope (run.withValue directive position calculation next).run.scope := by
  unfold Run.withValue
  split
  · exact hnext _
  · exact .refl _

variable {body : Run σ → Outcome σ}
  (hbody : ∀ run, Kept (fun _ => True) run.scope (body run).run.scope)
include hbody

theorem scope_round (run : Run σ) (target : Target) (index length : Nat)
    (member : Value × Value) :
    (run.round target index length member body).run.scope = run.scope := by
  let scope := target.bind member.1 member.2 run.scope.push
  have hset : Kept (fun _ => True) scope (scope.set "loop" (loopState index length)) := .set _ _ trivial
  have hstart := (Kept.bind target member.1 member.2 run.scope.push).trans hset
  exact (hstart.trans (hbody { run with scope := scope.set "loop" _ })).pop_of_push

theorem scope_rounds (target : Target) (length : Nat) (members : List (Value × Value)) :
    ∀ (index : Nat) (run : Run σ),
      (Run.rounds target length body index members run).run.scope = run.scope := by
  induction members with
  | nil => intro index run; rfl
  | cons member rest ih =>
    intro index run
    have hr := scope_round hbody run target index length member
    simp only [Run.rounds, Outcome.andThen]
    split
    · exact hr
    · rw [ih]; exact hr

end Loops

/-! ## Nodes -/

/-- Writing changes no variable, whether it fails or not. -/
theorem Run.scope_writeEach {σ : Type} [Writer σ] (run : Run σ) (texts : List String) :
    (run.writeEach texts).run.scope = run.scope := by
  induction texts generalizing run with
  | nil => rfl
  | cons text rest ih =>
    rw [writeEach, Outcome.andThen]
    split
    · rfl
    · exact ih _

namespace Environment

variable {σ : Type} [Writer σ] (env : Environment)

/-- Including a template binds at most the names it is said to reach. -/
def InclusionsKept (reached : String → String → Prop) (included : String → Run σ → Outcome σ) : Prop :=
  ∀ template run, Kept (reached template) run.scope (included template run).run.scope

section Nodes

variable {reached : String → String → Prop} {included : String → Run σ → Outcome σ}

mutual

theorem renderNode_kept (hi : InclusionsKept reached included) (bound : String → Prop) :
    ∀ (node : Node) (run : Run σ), Covers reached bound [node] →
      Kept bound run.scope (env.renderNode included node run).run.scope
  | .text text, run, _ => by
    rw [renderNode]
    exact .refl _
  | .output position e, run, _ => by
    rw [renderNode]
    refine .withValue _ _ _ _ fun v => ?_
    rw [Run.scope_writeEach]
    exact .refl _
  | .block position name content, run, hc => by
    rw [renderNode]
    exact renderNodes_kept hi bound content run (hc.part (List.mem_singleton.mpr rfl))
  | .inclusion position name, run, hc => by
    rw [renderNode]
    exact (hi name run).mono fun other ho =>
      hc.inclusions position name other (.here (List.mem_singleton.mpr rfl)) ho
  | .conditional position branches none, run, hc => by
    rw [renderNode]
    exact renderBranches_kept hi bound position _ branches run
      (fun b hb => hc.part (List.mem_append_left _ (List.mem_map_of_mem hb))) fun _ => .refl _
  | .conditional position branches (some content), run, hc => by
    rw [renderNode]
    refine renderBranches_kept hi bound position _ branches run
      (fun b hb => hc.part (List.mem_append_left _ (List.mem_map_of_mem hb))) fun run => ?_
    exact renderNodes_kept hi bound content run
      (hc.part (List.mem_append_right _ (List.mem_singleton.mpr rfl)))
  | .loop position target collection filters body, run, _ => by
    rw [renderNode]
    refine .withValue _ _ _ _ fun v => ?_
    rw [scope_rounds fun run => renderNodes_kept hi (fun _ => True) body run (.all body)]
    exact .refl _
  | .assignment position name e, run, hc => by
    rw [renderNode]
    exact .withValue _ _ _ _ fun v =>
      .set _ v (hc.assignments position name e (.here (List.mem_singleton.mpr rfl)))

theorem renderNodes_kept (hi : InclusionsKept reached included) (bound : String → Prop) :
    ∀ (content : Content) (run : Run σ), Covers reached bound content →
      Kept bound run.scope (env.renderNodes included content run).run.scope
  | [], run, _ => by
    rw [renderNodes]
    exact .refl _
  | node :: rest, run, hc => by
    rw [renderNodes]
    refine .andThen ?_ fun run => ?_
    · exact renderNode_kept hi bound node run (hc.subset (by simp))
    · exact renderNodes_kept hi bound rest run (hc.subset fun _ h => List.mem_cons_of_mem _ h)

theorem renderBranches_kept (hi : InclusionsKept reached included) (bound : String → Prop)
    (position : Position) (otherwise : Run σ → Outcome σ) :
    ∀ (branches : List (Expr × Content)) (run : Run σ), (∀ b ∈ branches, Covers reached bound b.2) →
      (∀ run, Kept bound run.scope (otherwise run).run.scope) →
      Kept bound run.scope (env.renderBranches included position otherwise branches run).run.scope
  | [], run, _, ho => by
    rw [renderBranches]
    exact ho run
  | (condition, content) :: rest, run, hc, ho => by
    rw [renderBranches]
    refine .withValue _ _ _ _ fun v => ?_
    split
    · exact renderNodes_kept hi bound content run (hc _ (List.mem_cons_self ..))
    · exact renderBranches_kept hi bound position otherwise rest run
        (fun b hb => hc b (List.mem_cons_of_mem _ hb)) ho

end

end Nodes

/-! ## Inclusions -/

theorem covers_binds {reached : String → String → Prop} (content : Content)
    (hr : ∀ template name, reached template name →
      ∃ body, env.compileNamed template = .ok body ∧ Binds env name body) :
    Covers reached (Binds env · content) content := by
  refine ⟨fun _ _ _ hu => .assignment hu, fun _ template name hu hname => ?_⟩
  obtain ⟨body, hbody, hb⟩ := hr template name hname
  exact .inclusion hu hbody hb

theorem renderUpTo_kept : ∀ (n : Nat) (content : Content) (run : Run σ),
    Kept (Binds env · content) run.scope (env.renderUpTo n content run).run.scope := by
  intro n
  induction n with
  | zero =>
    intro content run
    have hr : ∀ template name, False →
        ∃ body, env.compileNamed template = .ok body ∧ Binds env name body := fun _ _ h => h.elim
    exact env.renderNodes_kept (fun _ _ => .refl _) _ content run (env.covers_binds content hr)
  | succ n ih =>
    intro content run
    refine env.renderNodes_kept (fun template run => ?_) _ content run
      (env.covers_binds content fun _ _ h => h)
    split
    · exact .refl _
    · rename_i body hbody
      exact ((ih body { run with scope := run.scope.enter }).mono
        fun name hn => ⟨body, hbody, hn⟩).leave_of_enter

/-- However a run ends, its scope has as many frames as before and the same inclusion
    depth; only the innermost frame may differ, in names assigned outside every loop, and
    no name is gone from it. -/
theorem frames_after_render (content : Content) (run : Run σ) :
    let after := (env.renderContent content run).run.scope
    after.frames.length = run.scope.frames.length ∧
      after.includeDepth = run.scope.includeDepth ∧
      after.frames.tail = run.scope.frames.tail ∧
      after.caller = run.scope.caller ∧
      (∀ name, run.scope.innermost.hasKey name = true → after.innermost.hasKey name = true) ∧
      ∀ name, after.innermost.get? name ≠ run.scope.innermost.get? name →
        Binds env name content := by
  intro after
  have h : Kept (Binds env · content) run.scope after := env.renderUpTo_kept _ content run
  refine ⟨?_, h.includeDepth, h.outer, h.caller, h.persists, h.confined⟩
  rw [after.frames_eq_cons, run.scope.frames_eq_cons, h.outer]
  rfl

end Environment

end TemplateEngine
