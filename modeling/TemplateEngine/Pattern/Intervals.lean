/-
  TemplateEngine.Pattern.Intervals — the members of a set of characters in order.

  Every set is a list of intervals of codes, rising and with a gap between any two.
-/

import TemplateEngine.Pattern.CharSet

namespace TemplateEngine.Pattern

abbrev Interval := Nat × Nat

/-- Joins an interval with those behind it that it overlaps or touches. -/
def coalesceFrom (r : Interval) : List Interval → List Interval
  | [] => [r]
  | s :: rest =>
    if s.1 ≤ r.2 + 1 then coalesceFrom (r.1, max r.2 s.2) rest else r :: coalesceFrom s rest

/-- Any intervals, put in order and joined. -/
def coalesce (rs : List Interval) : List Interval :=
  match rs.mergeSort fun a b => decide (a.1 ≤ b.1) with
  | [] => []
  | r :: rest => coalesceFrom r rest

/-- What intervals in order leave out, from a code on. -/
def gaps (first : Nat) : List Interval → List Interval
  | [] => if first ≤ 0x10ffff then [(first, 0x10ffff)] else []
  | r :: rest => if first < r.1 then (first, r.1 - 1) :: gaps (r.2 + 1) rest else gaps (r.2 + 1) rest

def holds (rs : List Interval) (n : Nat) : Bool := rs.any fun r => r.1 ≤ n && n ≤ r.2

/-- The codes of a run of the fold table, each with the code it folds to. -/
def runPairs (run : Nat × Nat × Nat × Int) : List (Nat × Nat) :=
  let (first, last, step, shift) := run
  (List.range ((last - first) / step + 1)).map fun i =>
    (first + i * step, (((first + i * step : Nat) : Int) + shift).toNat)

/-- Characters that differ from a member by case only. -/
def caseVariants (unicode : Bool) (rs : List Interval) : List Interval :=
  if unicode then
    let pairs := Text.foldRuns.flatMap runPairs
    let targets := (pairs.filter fun p => holds rs p.1 || holds rs p.2).map (·.2)
    (pairs.filter fun p => targets.contains p.2).flatMap fun p => [(p.1, p.1), (p.2, p.2)]
  else
    ((List.range 128).filter fun n => (caseCodes false n).any (holds rs)).map fun n => (n, n)

/-- The members of a set. -/
def CharSet.intervals : CharSet → List Interval
  | ranges rs => coalesce rs
  | union a b => coalesce (a.intervals ++ b.intervals)
  | inter a b => gaps 0 (coalesce (gaps 0 a.intervals ++ gaps 0 b.intervals))
  | diff a b => gaps 0 (coalesce (gaps 0 a.intervals ++ b.intervals))
  | symmDiff a b =>
    let a := a.intervals
    let b := b.intervals
    gaps 0
      (coalesce (gaps 0 (coalesce (a ++ b)) ++ gaps 0 (coalesce (gaps 0 a ++ gaps 0 b))))
  | compl a => gaps 0 a.intervals
  | anyCase unicode a =>
    let a := a.intervals
    coalesce (a ++ caseVariants unicode a)

end TemplateEngine.Pattern
