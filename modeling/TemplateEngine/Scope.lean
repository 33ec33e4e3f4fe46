/-
  TemplateEngine.Scope — which variables an expression sees.

  Frames of bindings lie over the caller's variables, which never change. A name means its
  binding in the innermost frame that has one, or else the caller's. The bottom frame is
  never taken away.
-/

import TemplateEngine.Value.Basic

namespace TemplateEngine

abbrev Frame := Table Value

structure Scope where
  caller : Table Value
  bottom : Frame := []
  /-- The frames above the bottom one, the innermost first. -/
  inner : List Frame := []
  /-- How many inclusions the run is inside. -/
  includeDepth : Nat := 0

namespace Scope

/-- All frames, the innermost first. -/
def frames (s : Scope) : List Frame := s.inner ++ [s.bottom]

def lookup (s : Scope) (name : String) : Option Value :=
  match s.frames.findSome? (Table.get? name) with
  | some v => some v
  | none => s.caller.get? name

/-- Binds a name in the innermost frame. -/
def set (s : Scope) (name : String) (value : Value) : Scope :=
  match s.inner with
  | [] => { s with bottom := s.bottom.put name value }
  | frame :: rest => { s with inner := Table.put name value frame :: rest }

def push (s : Scope) : Scope := { s with inner := [] :: s.inner }

/-- Takes the innermost frame away, unless it is the bottom one. -/
def pop (s : Scope) : Scope := { s with inner := s.inner.tail }

def enter (s : Scope) : Scope := { s with includeDepth := s.includeDepth + 1 }

def leave (s : Scope) : Scope := { s with includeDepth := s.includeDepth - 1 }

theorem pop_push (s : Scope) : s.push.pop = s := rfl

/-- The innermost of several frames goes, and the last one stays. -/
theorem frames_pop (s : Scope) : s.pop.frames = if 1 < s.frames.length then s.frames.tail else s.frames := by
  obtain ⟨caller, bottom, inner, depth⟩ := s
  cases inner <;> simp [pop, frames]

theorem lookup_push (s : Scope) (name : String) : s.push.lookup name = s.lookup name := by
  simp [lookup, frames, push, List.findSome?_cons, Table.get?]

/-- What has just been bound is what is found. -/
theorem lookup_set (s : Scope) (name other : String) (value : Value) :
    (s.set name value).lookup other = if name = other then some value else s.lookup other := by
  obtain ⟨caller, bottom, inner, depth⟩ := s
  cases inner with
  | nil => by_cases h : name = other <;> simp [lookup, frames, set, Table.get?_put, h]
  | cons frame rest =>
    by_cases h : name = other <;>
      simp [lookup, frames, set, List.findSome?_cons, Table.get?_put, h]

end Scope

end TemplateEngine
