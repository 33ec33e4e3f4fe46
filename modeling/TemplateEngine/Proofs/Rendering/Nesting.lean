/-
  TemplateEngine.Proofs.Rendering.Nesting — how deep inclusions nest.

  The limit on inclusions ends a circle of templates that include each other. It does not
  stand in the way of templates that can be ranked, each including templates of lower
  ranks only, as long as the ranks are below the limit.

  Proved, for every writer and environment:
  - `includeDepth_le_of_calls`: no call is inside more inclusions than the limit allows.
  - `ranked_of_calls`: the deeper a call is, the lower the ranks of what it includes.
  - `inclusions_bounded`: rendering ends, within the limit; it ends with the error of the
    limit exactly if it comes to an inclusion at the limit, and never if templates are
    ranked.
-/

import TemplateEngine.Proofs.Rendering.Failures

namespace TemplateEngine

open Relation (ReflTransGen)

variable {σ : Type} [Writer σ] {env : Environment} {start call : Content × Run σ}

theorem includeDepth_le_of_call (h : Calls env start call)
    (hstart : start.2.scope.includeDepth ≤ env.config.maxIncludeDepth) :
    call.2.scope.includeDepth ≤ env.config.maxIncludeDepth := by
  obtain ⟨node, run, harrives, hstarts⟩ := h
  have hdepth := harrives.includeDepth
  rcases hstarts.cases_depth with ⟨-, hsame⟩ | ⟨_, _, -, -, hroom, hmore⟩ <;> omega

theorem includeDepth_le_of_calls (h : ReflTransGen (Calls env) start call)
    (hstart : start.2.scope.includeDepth ≤ env.config.maxIncludeDepth) :
    call.2.scope.includeDepth ≤ env.config.maxIncludeDepth := by
  induction h with
  | refl => exact hstart
  | tail _ hcall ih => exact includeDepth_le_of_call hcall ih

/-! ## Ranks of templates -/

/-- The templates that a template includes rank below it. -/
def Descends (env : Environment) (rank : String → Nat) : Prop :=
  ∀ name body, env.compileNamed name = .ok body →
    ∀ position inner, Occurs (.inclusion position inner) body → rank inner < rank name

/-- Inside as many inclusions as there are, the limit leaves room for the ranks. -/
def Ranked (env : Environment) (rank : String → Nat) (call : Content × Run σ) : Prop :=
  ∀ position name, Occurs (.inclusion position name) call.1 →
    rank name + call.2.scope.includeDepth < env.config.maxIncludeDepth

theorem ranked_of_call {rank : String → Nat} (hrank : Descends env rank) (h : Calls env start call)
    (hstart : Ranked env rank start) : Ranked env rank call := by
  obtain ⟨node, run, harrives, hstarts⟩ := h
  have hdepth := harrives.includeDepth
  intro position name hoccurs
  rcases hstarts.cases_depth with ⟨hpart, hsame⟩ | ⟨position', template, rfl, hbody, -, hmore⟩
  · have := hstart position name (.inside harrives.mem hpart hoccurs)
    omega
  · have hlower := hrank template call.1 hbody position name hoccurs
    have := hstart position' template (.here harrives.mem)
    omega

theorem ranked_of_calls {rank : String → Nat} (hrank : Descends env rank)
    (h : ReflTransGen (Calls env) start call) (hstart : Ranked env rank start) : Ranked env rank call := by
  induction h with
  | refl => exact hstart
  | tail _ hcall ih => exact ranked_of_call hrank hcall ih

/-! ## The limit -/

theorem recursiveInclusion_iff (env : Environment) (start : Content × Run σ) (name : String) (limit : Nat) :
    (env.renderContent start.1 start.2).failure = some (.recursiveInclusion name limit) ↔
      limit = env.config.maxIncludeDepth ∧ ∃ call position run, ReflTransGen (Calls env) start call ∧
        Arrives env (.inclusion position name) call.1 call.2 run ∧
        env.config.maxIncludeDepth ≤ run.scope.includeDepth := by
  rw [failure_iff]
  constructor
  · rintro ⟨call, node, run, hcalls, harrives, hraises⟩
    cases hraises with
    | text h => cases Run.eq_sinkFull_of_write h
    | output _ h => cases Run.eq_sinkFull_of_writeEach h
    | tooDeep hdepth => exact ⟨rfl, call, _, run, hcalls, harrives, hdepth⟩
  · rintro ⟨rfl, call, position, run, hcalls, harrives, hdepth⟩
    exact ⟨call, _, run, hcalls, harrives, .tooDeep hdepth⟩

theorem Ranked.ne_recursiveInclusion {rank : String → Nat} (hrank : Descends env rank)
    (hstart : Ranked env rank start) (name : String) (limit : Nat) :
    (env.renderContent start.1 start.2).failure ≠ some (.recursiveInclusion name limit) := by
  intro hfailure
  obtain ⟨-, call, position, run, hcalls, harrives, hfull⟩ :=
    (recursiveInclusion_iff env start name limit).mp hfailure
  have hroom := ranked_of_calls hrank hcalls hstart position name (.here harrives.mem)
  have hdepth := harrives.includeDepth
  omega

/-- Rendering ends, though the templates include each other in circles. It stays within the
    limit, which it runs into only where an inclusion is already that deep. Templates that
    are ranked below the limit do not run into it. -/
theorem inclusions_bounded (env : Environment) (content : Content) (caller : Table Value) (sink : σ) :
    let start : Content × Run σ := (content, { scope := { caller }, sink })
    (WellFounded fun called caller : Content × Run σ => Calls env caller called) ∧
    (∀ call, ReflTransGen (Calls env) start call →
      call.2.scope.includeDepth ≤ env.config.maxIncludeDepth) ∧
    (∀ name limit, (env.renderContent start.1 start.2).failure = some (.recursiveInclusion name limit) ↔
      limit = env.config.maxIncludeDepth ∧ ∃ call position run, ReflTransGen (Calls env) start call ∧
        Arrives env (.inclusion position name) call.1 call.2 run ∧
        run.scope.includeDepth = env.config.maxIncludeDepth) ∧
    ∀ rank, Descends env rank →
      (∀ position name, Occurs (.inclusion position name) content →
        rank name < env.config.maxIncludeDepth) →
      ∀ name limit, (env.renderContent start.1 start.2).failure ≠ some (.recursiveInclusion name limit) := by
  intro start
  have hstart : start.2.scope.includeDepth ≤ env.config.maxIncludeDepth := Nat.zero_le _
  refine ⟨wellFounded_calls env, fun call hcalls => includeDepth_le_of_calls hcalls hstart, ?_, ?_⟩
  · intro name limit
    rw [recursiveInclusion_iff]
    constructor
    · rintro ⟨hlimit, call, position, run, hcalls, harrives, hfull⟩
      have hbound := includeDepth_le_of_calls hcalls hstart
      have hdepth := harrives.includeDepth
      exact ⟨hlimit, call, position, run, hcalls, harrives, by omega⟩
    · rintro ⟨hlimit, call, position, run, hcalls, harrives, hfull⟩
      exact ⟨hlimit, call, position, run, hcalls, harrives, Nat.le_of_eq hfull.symm⟩
  · intro rank hrank hranks
    exact Ranked.ne_recursiveInclusion hrank hranks

/-- A limit of two lets a page include a template that includes another one. -/
theorem inclusions_bounded_two :
    ∃ env : Environment, env.config.maxIncludeDepth = 2 ∧
      Descends env (fun name => if name = "a" then 1 else 0) ∧
      ∀ name limit, (env.renderContent [.inclusion ⟨0, 1, 1⟩ "a"]
        ({ scope := { caller := [] }, sink := {} } : Run Sink)).failure ≠
          some (.recursiveInclusion name limit) := by
  let env : Environment :=
    { load := Loader.ofTable [("a", "\x7b%include'b'%\x7d"), ("b", "*")]
      config := { maxIncludeDepth := 2 } }
  have houter : env.compileNamed "a" = .ok [.inclusion ⟨0, 1, 1⟩ "b"] := by with_unfolding_all rfl
  have hinner : env.compileNamed "b" = .ok [.text "*"] := by with_unfolding_all rfl
  have hmissing (name : String) (ha : name ≠ "a") (hb : name ≠ "b") :
      env.load name = .error (.notFound name) := by
    simp [env, Loader.ofTable, Table.get?, Ne.symm ha, Ne.symm hb]
  have hlimit : env.config.maxIncludeDepth = 2 := rfl
  clear_value env
  have hrank : Descends env (fun name => if name = "a" then 1 else 0) := by
    intro name body hbody position inner hoccurs
    by_cases ha : name = "a"
    · subst ha
      cases houter.symm.trans hbody
      obtain ⟨-, hname⟩ := Node.inclusion.inj (List.mem_singleton.mp
        (hoccurs.mem_of_leaves (by simp [Node.contents])))
      simp [hname]
    by_cases hb : name = "b"
    · subst hb
      cases hinner.symm.trans hbody
      cases List.mem_singleton.mp (hoccurs.mem_of_leaves (by simp [Node.contents]))
    · rw [Environment.compileNamed, Environment.loadDocument, hmissing name ha hb] at hbody
      cases hbody
  have hranks : ∀ position name, Occurs (.inclusion position name) [.inclusion ⟨0, 1, 1⟩ "a"] →
      (if name = "a" then 1 else 0) < env.config.maxIncludeDepth := by
    intro _ name _
    rw [hlimit]
    split <;> omega
  exact ⟨env, hlimit, hrank, (inclusions_bounded env [.inclusion ⟨0, 1, 1⟩ "a"] [] ({} : Sink)).2.2.2 _
    hrank hranks⟩

end TemplateEngine
