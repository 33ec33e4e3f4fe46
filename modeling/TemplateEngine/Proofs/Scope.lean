/-
  TemplateEngine.Proofs.Scope — the scope as a stack of frames over the caller's variables.

  Frames are put up and taken away and names are bound in the innermost one, in any order
  and number; the bottom frame stays. What a name means then follows from the steps alone:
  a binding made in the bottom frame lasts, and one made above it lasts as long as the
  steps behind it never take away more frames than they have put up (`Standing`).

  Proved:
  - `binding_run`: in each frame a name has what it was last bound to there.
  - `pop_run_push`: steps that take away just the frames they put up leave no trace behind
    a frame put up before them and taken away after them.
  - `scope_of_steps`: how many frames there are, and what every name means.
-/

import Mathlib.Data.List.Basic
import Mathlib.Data.List.Induction
import Mathlib.Data.List.Infix
import Mathlib.Data.Nat.Find
import TemplateEngine.Proofs.Rendering.Frames

namespace TemplateEngine.Scope

/-- What is done to a scope. -/
inductive Step
  | push
  | pop
  | set (name : String) (value : Value)

def apply (s : Scope) : Step → Scope
  | .push => s.push
  | .pop => s.pop
  | .set name value => s.set name value

def run (s : Scope) (steps : List Step) : Scope := steps.foldl apply s

@[simp] theorem run_nil (s : Scope) : s.run [] = s := rfl

@[simp] theorem run_concat (s : Scope) (steps : List Step) (step : Step) :
    s.run (steps ++ [step]) = (s.run steps).apply step := by
  simp [run, List.foldl_append]

theorem length_frames (s : Scope) : s.frames.length = s.inner.length + 1 := by simp [frames]

/-! ## Counting frames -/

/-- How many frames stand over the bottom one when there have been `n`. -/
def Step.height (n : Nat) : Step → Nat
  | .push => n + 1
  | .pop => n - 1
  | .set _ _ => n

/-- How many frames stand over the bottom one after the steps. -/
def height (steps : List Step) : Nat := steps.foldl Step.height 0

@[simp] theorem height_concat (steps : List Step) (step : Step) :
    height (steps ++ [step]) = step.height (height steps) := by
  simp [height, List.foldl_append]

theorem inner_length_set (s : Scope) (name : String) (value : Value) :
    (s.set name value).inner.length = s.inner.length := by
  unfold set
  split <;> simp [*]

theorem inner_length_apply (s : Scope) (step : Step) :
    (s.apply step).inner.length = step.height s.inner.length := by
  cases step with
  | push => simp [apply, push, Step.height]
  | pop => simp [apply, pop, Step.height]
  | set name value => simp [apply, inner_length_set, Step.height]

theorem inner_length_run (caller : Table Value) (steps : List Step) :
    (run { caller } steps).inner.length = height steps := by
  induction steps using List.reverseRecOn with
  | nil => rfl
  | append_singleton steps step ih => rw [run_concat, inner_length_apply, ih, height_concat]

def pushes (steps : List Step) : Nat := steps.countP fun | .push => true | _ => false

def pops (steps : List Step) : Nat := steps.countP fun | .pop => true | _ => false

/-- No first part of the steps takes away more frames than it has put up. -/
def Standing (steps : List Step) : Prop := ∀ part, part <+: steps → pops part ≤ pushes part

instance (steps : List Step) : Decidable (Standing steps) :=
  decidable_of_iff (∀ part ∈ steps.inits, pops part ≤ pushes part) (by simp [Standing])

/-- The steps take away just the frames that they put up. -/
structure Balanced (steps : List Step) : Prop where
  standing : Standing steps
  even : pops steps = pushes steps

theorem standing_nil : Standing [] := by
  intro part h
  rw [List.prefix_nil.mp h]
  exact Nat.le_refl 0

theorem Standing.all {steps : List Step} (h : Standing steps) : pops steps ≤ pushes steps :=
  h steps (List.prefix_refl steps)

theorem standing_concat {steps : List Step} {step : Step} :
    Standing (steps ++ [step]) ↔
      Standing steps ∧ pops (steps ++ [step]) ≤ pushes (steps ++ [step]) := by
  constructor
  · intro h
    exact ⟨fun part hp => h part (hp.trans (List.prefix_append ..)), h.all⟩
  · rintro ⟨h, hall⟩ part hp
    rcases List.prefix_concat_iff.mp hp with rfl | hp
    · exact hall
    · exact h part hp

@[simp] theorem pops_concat_pop (steps : List Step) : pops (steps ++ [.pop]) = pops steps + 1 := by
  simp [pops]

@[simp] theorem pushes_concat_pop (steps : List Step) : pushes (steps ++ [.pop]) = pushes steps := by
  simp [pushes]

@[simp] theorem pops_concat_push (steps : List Step) : pops (steps ++ [.push]) = pops steps := by
  simp [pops]

@[simp] theorem pushes_concat_push (steps : List Step) : pushes (steps ++ [.push]) = pushes steps + 1 := by
  simp [pushes]

@[simp] theorem pops_concat_set (steps : List Step) (name : String) (value : Value) :
    pops (steps ++ [.set name value]) = pops steps := by
  simp [pops]

@[simp] theorem pushes_concat_set (steps : List Step) (name : String) (value : Value) :
    pushes (steps ++ [.set name value]) = pushes steps := by
  simp [pushes]

/-- While no frame is taken away that stood before, the steps count as they are. -/
theorem height_append {before after : List Step} (h : Standing after) :
    height (before ++ after) + pops after = height before + pushes after := by
  induction after using List.reverseRecOn with
  | nil => simp [pops, pushes]
  | append_singleton after step ih =>
    obtain ⟨hstanding, hall⟩ := standing_concat.mp h
    have ih := ih hstanding
    rw [← List.append_assoc, height_concat]
    cases step with
    | push => simp only [Step.height, pops_concat_push, pushes_concat_push]; omega
    | pop =>
      simp only [pops_concat_pop, pushes_concat_pop] at hall
      simp only [Step.height, pops_concat_pop, pushes_concat_pop]
      omega
    | set name value => simp only [Step.height, pops_concat_set, pushes_concat_set]; omega

/-! ## Frames put up and taken away -/

/-- Steps that take away no frame that stood before change only the innermost of those. -/
theorem inner_run_standing {steps : List Step} (h : Standing steps) (caller : Table Value) (bottom frame : Frame)
    (rest : List Frame) (depth : Nat) :
    ∃ above frame',
      run ⟨caller, bottom, frame :: rest, depth⟩ steps = ⟨caller, bottom, above ++ frame' :: rest, depth⟩ ∧
        above.length + pops steps = pushes steps := by
  induction steps using List.reverseRecOn with
  | nil => exact ⟨[], frame, rfl, rfl⟩
  | append_singleton steps step ih =>
    obtain ⟨hstanding, hall⟩ := standing_concat.mp h
    obtain ⟨above, frame', hrun, hcount⟩ := ih hstanding
    rw [run_concat, hrun]
    cases step with
    | push =>
      refine ⟨[] :: above, frame', rfl, ?_⟩
      simp only [List.length_cons, pops_concat_push, pushes_concat_push]
      omega
    | pop =>
      simp only [pops_concat_pop, pushes_concat_pop] at hall ⊢
      cases above with
      | nil => simp only [List.length_nil] at hcount; omega
      | cons top above =>
        simp only [List.length_cons] at hcount
        exact ⟨above, frame', rfl, by omega⟩
    | set name value =>
      simp only [pops_concat_set, pushes_concat_set]
      cases above with
      | nil => exact ⟨[], Table.put name value frame', rfl, hcount⟩
      | cons top above => exact ⟨Table.put name value top :: above, frame', rfl, hcount⟩

theorem pop_run_push {steps : List Step} (h : Balanced steps) (s : Scope) : (s.push.run steps).pop = s := by
  obtain ⟨caller, bottom, inner, depth⟩ := s
  obtain ⟨above, frame, hrun, hcount⟩ := inner_run_standing h.standing caller bottom [] inner depth
  have heven := h.even
  cases above with
  | nil => simp [push, hrun, pop]
  | cons top above => simp only [List.length_cons] at hcount; omega

/-! ## What a frame binds -/

/-- What the name has in the frame with `i` frames below it. -/
def binding (s : Scope) (i : Nat) (name : String) : Option Value :=
  s.frames.reverse[i]?.bind (Table.get? name)

theorem reverse_frames (s : Scope) : s.frames.reverse = s.bottom :: s.inner.reverse := by simp [frames]

theorem binding_push (s : Scope) (i : Nat) (name : String) : s.push.binding i name = s.binding i name := by
  simp only [binding, reverse_frames, push, List.reverse_cons]
  rw [← List.cons_append, List.getElem?_append]
  split
  · rfl
  · rename_i hi
    rw [List.getElem?_eq_none (Nat.not_lt.mp hi)]
    rcases hd : ([[]] : List Frame)[i - (s.bottom :: s.inner.reverse).length]? with _ | frame
    · rfl
    · obtain rfl := List.mem_singleton.mp (List.mem_of_getElem? hd)
      rfl

theorem binding_pop (s : Scope) (i : Nat) (name : String) :
    s.pop.binding i name = if i ≤ s.inner.length - 1 then s.binding i name else none := by
  have hlength := length_frames s
  rw [binding, binding, frames_pop]
  split
  · obtain ⟨top, below, hframes⟩ := List.exists_cons_of_length_pos (l := s.frames) (by omega)
    have hbelow : s.frames.length = below.length + 1 := congrArg List.length hframes
    rw [hframes, List.tail_cons, List.reverse_cons]
    by_cases hi : i ≤ s.inner.length - 1
    · rw [if_pos hi, List.getElem?_append_left (by rw [List.length_reverse]; omega)]
    · rw [if_neg hi, List.getElem?_eq_none (by rw [List.length_reverse]; omega), Option.bind_none]
  · by_cases hi : i ≤ s.inner.length - 1
    · rw [if_pos hi]
    · rw [if_neg hi, List.getElem?_eq_none (by rw [List.length_reverse]; omega), Option.bind_none]

theorem binding_set (s : Scope) (i : Nat) (name other : String) (value : Value) :
    (s.set other value).binding i name =
      if i = s.inner.length ∧ other = name then some value else s.binding i name := by
  obtain ⟨caller, bottom, inner, depth⟩ := s
  simp only [binding, reverse_frames, set]
  cases inner with
  | nil => cases i <;> simp [Table.get?_put]
  | cons frame rest =>
    simp only [List.reverse_cons, List.length_cons]
    rw [← List.cons_append, ← List.cons_append, List.getElem?_append, List.getElem?_append]
    by_cases hi : i = rest.length + 1
    · subst hi
      simp [Table.get?_put]
    · by_cases hlt : i < rest.length + 1
      · simp [hi, hlt]
      · simp [hi, hlt, (show i - (rest.length + 1) ≠ 0 by omega)]

/-! ## Bindings that last -/

/-- After `time` of the steps the name is bound to the value, in the frame that has `frame`
    frames below it, and that frame still stands when all steps are done. -/
def Bound (steps : List Step) (name : String) (value : Value) (frame time : Nat) : Prop :=
  ∃ before after, steps = before ++ .set name value :: after ∧ height before = frame ∧ before.length = time ∧
    (frame = 0 ∨ Standing after)

/-- The most recent binding of the name in the frame. -/
def Newest (steps : List Step) (name : String) (value : Value) (frame : Nat) : Prop :=
  ∃ time, Bound steps name value frame time ∧
    ∀ value' time', Bound steps name value' frame time' → time' ≤ time

theorem Bound.time_lt {steps : List Step} {name : String} {value : Value} {frame time : Nat}
    (h : Bound steps name value frame time) : time < steps.length := by
  obtain ⟨before, after, rfl, -, rfl, -⟩ := h
  simp

theorem Bound.exists_newest {steps : List Step} {name : String} {value : Value} {frame time : Nat}
    (h : Bound steps name value frame time) : ∃ newest, Newest steps name newest frame := by
  classical
  let isTime : Nat → Prop := fun t => ∃ v, Bound steps name v frame t
  obtain ⟨newest, hnewest⟩ : isTime (Nat.findGreatest isTime steps.length) :=
    Nat.findGreatest_spec (Nat.le_of_lt h.time_lt) ⟨value, h⟩
  exact ⟨newest, _, hnewest, fun v t ht => Nat.le_findGreatest (Nat.le_of_lt ht.time_lt) ⟨v, ht⟩⟩

/-- A frame that has been bound in stands until a step takes it away. -/
theorem bound_concat {steps : List Step} {step : Step} {name : String} {value : Value} {frame time : Nat} :
    Bound (steps ++ [step]) name value frame time ↔
      (Bound steps name value frame time ∧ (step = .pop → frame ≤ height steps - 1)) ∨
      (step = .set name value ∧ frame = height steps ∧ time = steps.length) := by
  have hcount : ∀ before after, Standing after → height (before ++ .set name value :: after) + pops after =
      height before + pushes after := by
    intro before after h
    rw [← List.singleton_append, ← List.append_assoc, height_append h, height_concat, Step.height]
  have hlast : ∀ after, Standing after →
      (Standing (after ++ [step]) ↔ (step = .pop → pops after + 1 ≤ pushes after)) := by
    intro after h
    have hall := h.all
    rw [standing_concat, and_iff_right h]
    cases step <;> simp <;> omega
  constructor
  · rintro ⟨before, after, hsteps, rfl, rfl, hstands⟩
    rcases List.eq_nil_or_concat' after with rfl | ⟨after, last, rfl⟩
    · obtain ⟨rfl, hstep⟩ := List.append_inj' hsteps rfl
      exact .inr ⟨List.head_eq_of_cons_eq hstep, rfl, rfl⟩
    · have hsplit : steps ++ [step] = (before ++ .set name value :: after) ++ [last] := by simp [hsteps]
      obtain ⟨rfl, hstep⟩ := List.append_inj' hsplit rfl
      obtain rfl := List.head_eq_of_cons_eq hstep
      refine .inl ⟨⟨before, after, rfl, rfl, rfl, ?_⟩, ?_⟩
      · exact hstands.imp_right fun h => (standing_concat.mp h).1
      · intro hpop
        rcases hstands with hzero | hstands
        · omega
        · have hafter := (standing_concat.mp hstands).1
          have := (hlast after hafter).mp hstands hpop
          have := hcount before after hafter
          omega
  · rintro (⟨⟨before, after, rfl, rfl, rfl, hstands⟩, hpop⟩ | ⟨rfl, rfl, rfl⟩)
    · refine ⟨before, after ++ [step], by simp, rfl, rfl, ?_⟩
      by_cases hzero : height before = 0
      · exact .inl hzero
      · have hafter := hstands.resolve_left hzero
        refine .inr ((hlast after hafter).mpr fun h => ?_)
        have := hpop h
        have := hcount before after hafter
        omega
    · exact ⟨steps, [], rfl, rfl, rfl, .inr standing_nil⟩

/-- A binding of the name in the frame, made last, is the newest. -/
theorem newest_concat_set {steps : List Step} {name : String} {value value' : Value} :
    Newest (steps ++ [.set name value']) name value (height steps) ↔ value' = value := by
  have hnew : Bound (steps ++ [.set name value']) name value' (height steps) steps.length :=
    bound_concat.mpr (.inr ⟨rfl, rfl, rfl⟩)
  constructor
  · rintro ⟨t, h, hlast⟩
    rcases bound_concat.mp h with ⟨hold, -⟩ | ⟨hstep, -⟩
    · have := hold.time_lt
      have := hlast _ _ hnew
      omega
    · cases hstep
      rfl
  · rintro rfl
    refine ⟨steps.length, hnew, fun value t h => ?_⟩
    have := h.time_lt
    simp only [List.length_append, List.length_singleton] at this
    omega

/-- A binding of another name or in another frame adds nothing. -/
theorem newest_concat_set_other {steps : List Step} {name other : String} {value value' : Value} {i : Nat}
    (h : ¬ (i = height steps ∧ other = name)) :
    Newest (steps ++ [.set other value']) name value i ↔ Newest steps name value i := by
  have hsame : ∀ value t, Bound (steps ++ [.set other value']) name value i t ↔ Bound steps name value i t := by
    intro value t
    rw [bound_concat]
    constructor
    · rintro (⟨hbound, -⟩ | ⟨hstep, hi, -⟩)
      · exact hbound
      · cases hstep
        exact absurd ⟨hi, rfl⟩ h
    · exact fun hbound => .inl ⟨hbound, fun hpop => nomatch hpop⟩
  simp only [Newest, hsame]

/-- In each frame a name has what it was last bound to there. -/
theorem binding_run (caller : Table Value) (steps : List Step) (i : Nat) (name : String) (value : Value) :
    (run { caller } steps).binding i name = some value ↔ Newest steps name value i := by
  induction steps using List.reverseRecOn generalizing i name value with
  | nil =>
    have hnone : ¬ Newest [] name value i := by
      intro h
      obtain ⟨time, hbound, -⟩ := h
      exact Nat.not_lt_zero _ hbound.time_lt
    simp only [run_nil, hnone, iff_false]
    cases i <;> simp [binding, reverse_frames, Table.get?]
  | append_singleton steps step ih =>
    rw [run_concat]
    cases step with
    | push =>
      simp only [apply, binding_push, ih, Newest, bound_concat]
      simp
    | pop =>
      simp only [apply, binding_pop, inner_length_run, Newest, bound_concat]
      by_cases hi : i ≤ height steps - 1
      · simp [hi, ih, Newest]
      · simp [hi]
    | set other value' =>
      simp only [apply, binding_set, inner_length_run]
      by_cases hset : i = height steps ∧ other = name
      · obtain ⟨rfl, rfl⟩ := hset
        simp only [and_self, if_true, Option.some.injEq, newest_concat_set]
      · simp only [if_neg hset, ih, newest_concat_set_other hset]

/-! ## What a name means -/

/-- The first frame that answers, counted from the end. -/
theorem findSome?_eq_some_iff_last {frames : List Frame} {f : Frame → Option Value} {value : Value} :
    frames.findSome? f = some value ↔ ∃ i : Nat, frames.reverse[i]?.bind f = some value ∧
      ∀ j, i < j → frames.reverse[j]?.bind f = none := by
  rw [List.findSome?_eq_some_iff]
  constructor
  · rintro ⟨inner, frame, outer, rfl, hfound, hnone⟩
    have hrev : (inner ++ frame :: outer).reverse = outer.reverse ++ frame :: inner.reverse := by simp
    refine ⟨outer.length, by simp [hrev, hfound], fun j hj => ?_⟩
    obtain ⟨k, rfl⟩ : ∃ k, j = outer.length + (k + 1) := ⟨j - outer.length - 1, by omega⟩
    rw [hrev, List.getElem?_append_right (by simp), List.length_reverse, Nat.add_sub_cancel_left,
      List.getElem?_cons_succ]
    rcases hframe : inner.reverse[k]? with _ | other
    · rfl
    · exact hnone other (List.mem_reverse.mp (List.mem_of_getElem? hframe))
  · rintro ⟨i, hfound, hnone⟩
    obtain ⟨frame, hframe, hfound⟩ := Option.bind_eq_some_iff.mp hfound
    obtain ⟨hi, hget⟩ := List.getElem?_eq_some_iff.mp hframe
    have hsplit : frames.reverse = frames.reverse.take i ++ frame :: frames.reverse.drop (i + 1) := by
      rw [← hget, List.getElem_cons_drop, List.take_append_drop]
    refine ⟨(frames.reverse.drop (i + 1)).reverse, frame, (frames.reverse.take i).reverse, ?_, hfound, ?_⟩
    · have := congrArg List.reverse hsplit
      simpa using this
    · intro other hother
      obtain ⟨k, hk⟩ := List.mem_iff_getElem?.mp (List.mem_reverse.mp hother)
      have := hnone (i + 1 + k) (by omega)
      rwa [← List.getElem?_drop, hk] at this

/-- A name means what it has in the innermost frame that binds it, and otherwise what it
    means to the caller. -/
theorem lookup_eq_some_iff (s : Scope) (name : String) (value : Value) :
    s.lookup name = some value ↔
      (∃ i, s.binding i name = some value ∧ ∀ j, i < j → s.binding j name = none) ∨
      ((∀ i, s.binding i name = none) ∧ s.caller.get? name = some value) := by
  have hfound : ∀ value, s.frames.findSome? (Table.get? name) = some value ↔
      ∃ i, s.binding i name = some value ∧ ∀ j, i < j → s.binding j name = none := fun _ =>
    findSome?_eq_some_iff_last
  rw [← hfound, lookup]
  rcases hinner : s.frames.findSome? (Table.get? name) with _ | found
  · have hnone : ∀ i, s.binding i name = none := by
      intro i
      rcases hframe : s.frames.reverse[i]? with _ | frame
      · simp [binding, hframe]
      · have := List.findSome?_eq_none_iff.mp hinner frame (List.mem_reverse.mp (List.mem_of_getElem? hframe))
        simp [binding, hframe, this]
    simp [hnone]
  · obtain ⟨i, hi, -⟩ := (hfound found).mp hinner
    have hsome : ¬ ∀ i, s.binding i name = none := fun h => by simp [h i] at hi
    simp [hsome]

theorem caller_run (s : Scope) (steps : List Step) : (s.run steps).caller = s.caller := by
  induction steps using List.reverseRecOn with
  | nil => rfl
  | append_singleton steps step ih =>
    rw [run_concat, ← ih]
    cases step with
    | push => rfl
    | pop => rfl
    | set name value => exact caller_set _ name value

/-- No step has bound the name in a frame that still stands. -/
def Unbound (steps : List Step) (name : String) : Prop := ∀ value frame time, ¬ Bound steps name value frame time

/-- The value is what the name was last bound to in the innermost frame that still stands
    and binds it. -/
def BoundTo (steps : List Step) (name : String) (value : Value) : Prop :=
  ∃ frame, Newest steps name value frame ∧
    ∀ value' frame' time, Bound steps name value' frame' time → frame' ≤ frame

theorem binding_run_eq_none_iff (caller : Table Value) (steps : List Step) (i : Nat) (name : String) :
    (run { caller } steps).binding i name = none ↔ ∀ value time, ¬ Bound steps name value i time := by
  constructor
  · intro hnone value time h
    obtain ⟨newest, hnewest⟩ := h.exists_newest
    cases hnone.symm.trans ((binding_run caller steps i name newest).mpr hnewest)
  · intro h
    rcases hbound : (run { caller } steps).binding i name with _ | value
    · rfl
    · obtain ⟨time, hbound, -⟩ := (binding_run caller steps i name value).mp hbound
      exact absurd hbound (h value time)

/-- After any steps on a fresh scope over the caller's variables: there is a frame, and one more
    for each step that put one up and is not undone; a name means what it was last bound to in
    the innermost frame that still stands and binds it, and otherwise what it means to the
    caller. Steps that take away just the frames they put up, with a frame put up before them and
    taken away after them, leave every name with its meaning, in any scope. The bottom frame is
    not taken away. -/
theorem scope_of_steps (caller : Table Value) (steps : List Step) :
    (run { caller } steps).frames.length = height steps + 1 ∧
    (∀ name value, (run { caller } steps).lookup name = some value ↔
      BoundTo steps name value ∨ Unbound steps name ∧ caller.get? name = some value) ∧
    (∀ (s : Scope) (name : String), Balanced steps → (s.push.run steps).pop.lookup name = s.lookup name) ∧
    ∀ s : Scope, s.frames.length = 1 → s.pop = s := by
  refine ⟨?_, fun name value => ?_, fun s name h => ?_, fun s h => ?_⟩
  · rw [length_frames, inner_length_run]
  · simp only [lookup_eq_some_iff, binding_run, binding_run_eq_none_iff, caller_run]
    refine or_congr (exists_congr fun frame => and_congr_right fun _ => ?_) (and_congr_left fun _ => ?_)
    · refine ⟨fun h value' frame' time hbound => ?_, fun h j hj value' time hbound => ?_⟩
      · by_cases hj : frame < frame'
        · exact absurd hbound (h frame' hj value' time)
        · omega
      · have := h value' j time hbound
        omega
    · exact ⟨fun h value frame time => h frame value time, fun h frame value time => h value frame time⟩
  · rw [pop_run_push h]
  · obtain ⟨_, _, inner, _⟩ := s
    have hinner : inner = [] := by simpa [length_frames] using h
    rw [hinner]
    rfl

/-- A frame that hides the bottom one, with another one in it, and the bottom frame itself. -/
theorem scope_of_hidden_name :
    let s : Scope := run { caller := [("x", .int 0)] } [.set "x" (.int 1), .pop]
    let steps : List Step := [.set "x" (.int 2), .push, .set "x" (.int 3), .pop]
    Balanced steps ∧ s.frames.length = 1 ∧ s.pop = s ∧ (s.push.run steps).lookup "x" = some (.int 2) ∧
      (s.push.run steps).pop.lookup "x" = s.lookup "x" ∧ s.lookup "x" = some (.int 1) := by
  intro s steps
  have hbalanced : Balanced steps := ⟨by decide, rfl⟩
  obtain ⟨-, -, hrestored, hbottom⟩ := scope_of_steps [] steps
  exact ⟨hbalanced, rfl, hbottom s rfl, rfl, hrestored s "x" hbalanced, rfl⟩

end TemplateEngine.Scope
