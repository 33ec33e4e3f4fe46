/-
  TemplateEngine.Pattern.ByteRuns — characters as the bytes that write them.

  A run gives one interval of bytes for each byte of a character. The runs of an interval of
  characters describe all their writings and no others; they rise with the characters, so
  that runs with the same first bytes stand together.
-/

import TemplateEngine.Pattern.Intervals

namespace TemplateEngine.Pattern

abbrev ByteRun := List Interval

/-- The numbers of `k + 1` digits to the base 64 from `lo` to `hi`, digit by digit. -/
def digitRuns : Nat → Nat → Nat → List ByteRun
  | 0, lo, hi => [[(lo, hi)]]
  | k + 1, lo, hi =>
    let unit := Nat.pow 64 (k + 1)
    let a := lo / unit
    let b := hi / unit
    if a = b then (digitRuns k (lo % unit) (hi % unit)).map ((a, a) :: ·)
    else
      let cutLow := lo % unit != 0
      let cutHigh := hi % unit != unit - 1
      let first := if cutLow then a + 1 else a
      let last := if cutHigh then b - 1 else b
      (if cutLow then (digitRuns k (lo % unit) (unit - 1)).map ((a, a) :: ·) else [])
        ++ (if first ≤ last then [(first, last) :: List.replicate (k + 1) (0, 63)] else [])
        ++ (if cutHigh then (digitRuns k 0 (hi % unit)).map ((b, b) :: ·) else [])

/-- Digits as bytes: the first one marked with the length, the others as continuing. -/
def marked (lead : Nat) : ByteRun → ByteRun
  | [] => []
  | r :: rest => (r.1 + lead, r.2 + lead) :: rest.map fun s => (s.1 + 0x80, s.2 + 0x80)

/-- The codes that take a number of bytes, that number less one, and the mark. No character
    has a code from `0xd800` to `0xdfff`. -/
def byteLengths : List (Interval × Nat × Nat) :=
  [((0, 0x7f), 0, 0), ((0x80, 0x7ff), 1, 0xc0), ((0x800, 0xd7ff), 2, 0xe0),
    ((0xe000, 0xffff), 2, 0xe0), ((0x10000, 0x10ffff), 3, 0xf0)]

def runsOf (r : Interval) : List ByteRun :=
  byteLengths.flatMap fun (bounds, more, lead) =>
    let lo := max r.1 bounds.1
    let hi := min r.2 bounds.2
    if lo ≤ hi then (digitRuns more lo hi).map (marked lead) else []

/-- The bytes of one character. -/
def bytesOf (n : Nat) : List Nat := (runsOf (n, n)).flatten.map (·.1)

/-- Runs grouped by their first bytes; neighbours with the same ones make a group. -/
def byFirst : List ByteRun → List (Interval × List ByteRun)
  | [] => []
  | [] :: rest => byFirst rest
  | (r :: tail) :: rest =>
    match byFirst rest with
    | (r', tails) :: groups =>
      if r' = r then (r, tail :: tails) :: groups else (r, [tail]) :: (r', tails) :: groups
    | [] => [(r, [tail])]

def total {α : Type} (f : α → Nat) (xs : List α) : Nat := xs.foldr (fun x n => f x + n) 0

/-- How many beginnings the runs have that differ from each other. The first number bounds
    the length of the runs. -/
def beginnings : Nat → List ByteRun → Nat
  | 0, _ => 0
  | n + 1, runs => total (fun group => beginnings n group.2 + 1) (byFirst runs)

/-- Where a reader of bytes can be: for each interval of bytes, the place it goes on from.
    Place 0 is the end. -/
abbrev Place := List (Interval × Nat)

/-- The places in which the runs can be read, and the number of the first one. Equal places
    are one place. -/
def places : Nat → List ByteRun → List Place → Nat × List Place
  | 0, _, known => (0, known)
  | n + 1, runs, known =>
    match byFirst runs with
    | [] => (0, known)
    | groups =>
      let (place, known) := groups.foldl
        (fun (place, known) (r, tails) =>
          let (next, known) := places n tails known
          (place ++ [(r, next)], known))
        ([], known)
      match known.findIdx? (· == place) with
      | some i => (known.length - i, known)
      | none => (known.length + 1, place :: known)

end TemplateEngine.Pattern
