/-
  TemplateEngine.Proofs.Scan.Number — whole numbers read back.

  A number is scanned sign first and goes back to where it began if the rest is missing. So
  where a scanner leaves off is settled by what it has read, and the proofs are about that.

  Proved:
  - `digits_eq`, `integer_eq`, `double_eq`, `letter_eq`: a scanner that reads nothing stays in place.
  - `integer?_toString`: the decimal digits of a word, its sign included, are read as that word.
  - `double?_toString`: digits with no point and further digits behind them are no fraction.
-/

import TemplateEngine.Proofs.Number
import TemplateEngine.Proofs.Scan.Word
import TemplateEngine.Scan.Number

namespace TemplateEngine.Scan

/-! ## Scanners that stay in place -/

/-- The scanner of what is read only where it stands, and left in place otherwise. -/
def stay {α : Type} (scan : List Char → Option (α × List Char)) : Scanner α := fun s =>
  match scan s with
  | some (x, rest) => (some x, rest)
  | none => (none, s)

def digits? (s : List Char) : Option (List Char × List Char) :=
  match s.takeWhile isDigit with
  | [] => none
  | ds => some (ds, s.dropWhile isDigit)

def integer? (s : List Char) : Option (Int64 × List Char) := do
  let (negative, s) := minus s
  let (ds, rest) ← digits? s
  let n : Int := Decimal.digitsValue ds
  let value ← word? (if negative then -n else n)
  return (value, rest)

def double? (s : List Char) : Option (Double × List Char) := do
  let (negative, s) := minus s
  let (whole, rest) ← digits? s
  let rest ← mark? "." rest
  let (places, rest) ← digits? rest
  let value := Double.ofRatio negative (Decimal.digitsValue (whole ++ places)) (Nat.pow 10 places.length)
  return (value, rest)

def letter? : List Char → Option (Char × List Char)
  | '\'' :: c :: '\'' :: rest => if isAsciiLetter c then some (c, rest) else none
  | _ => none

theorem digits_eq (s : List Char) : digits s = stay digits? s := by
  unfold digits stay digits?
  cases h : s.takeWhile isDigit with
  | cons c ds => rfl
  | nil =>
    have hrest := List.takeWhile_append_dropWhile (p := isDigit) (l := s)
    rw [h, List.nil_append] at hrest
    rw [hrest]

theorem signedDigits_eq (s : List Char) :
    signedDigits s = stay (fun s => (digits? (minus s).2).map fun (ds, rest) => (((minus s).1, ds), rest)) s := by
  simp only [signedDigits, digits_eq, stay]
  cases digits? (minus s).2 <;> rfl

theorem integer_eq (s : List Char) : integer s = stay integer? s := by
  simp only [integer, signedDigits_eq, stay, integer?]
  cases digits? (minus s).2 with
  | none => rfl
  | some found =>
    dsimp
    split
    next h => simp [h]
    next h => simp [h]

theorem double_eq (s : List Char) : double s = stay double? s := by
  simp only [double, signedDigits_eq, digits_eq, stay, double?]
  cases digits? (minus s).2 with
  | none => rfl
  | some found =>
    obtain ⟨whole, rest⟩ := found
    dsimp
    cases mark? "." rest with
    | none => rfl
    | some rest =>
      dsimp
      cases digits? rest <;> rfl

theorem letter_eq (s : List Char) : letter s = stay letter? s := by
  fun_cases letter s with
  | case1 c rest hc => simp [stay, letter?, hc]
  | case2 c rest hc => simp [stay, letter?, hc]
  | case3 s hs => simp [stay, letter?]

/-! ## Digits -/

theorem isDigit_of_mem_toDigits {n : Nat} {c : Char} (h : c ∈ Nat.toDigits 10 n) : isDigit c = true := by
  have hc := Nat.isDigit_of_mem_toDigits (by decide) (by decide) h
  simpa [isDigit, Char.isDigit, Char.le_def] using hc

theorem digitsValue_toDigits (n : Nat) : Decimal.digitsValue (Nat.toDigits 10 n) = n := by
  have h := Nat.ofDigitChars_ten_toDigits (n := n)
  rw [Nat.ofDigitChars_eq_foldl] at h
  simpa [Decimal.digitsValue, Nat.mul_comm] using h

theorem digits?_append {ds rest : List Char} (hne : ds ≠ []) (hds : ∀ c ∈ ds, isDigit c = true)
    (hrest : Stops isDigit rest) : digits? (ds ++ rest) = some (ds, rest) := by
  unfold digits?
  rw [takeWhile_run hds hrest, dropWhile_run hds hrest]
  split
  · contradiction
  · rfl

theorem digits?_of_stops {s : List Char} (h : Stops isDigit s) : digits? s = none := by
  unfold digits?
  cases s with
  | nil => rfl
  | cons c s => simp [h c rfl]

/-- The sign and the digits of a whole number. -/
theorem toList_toString (n : Int) :
    (toString n).toList = (if n < 0 then ['-'] else []) ++ Nat.toDigits 10 n.natAbs := by
  cases n with
  | ofNat m =>
    have hm : ¬ (Int.ofNat m < 0) := by simp
    rw [if_neg hm]
    exact Nat.toList_repr
  | negSucc m =>
    have hs : toString (Int.negSucc m) = "-" ++ Nat.repr (m + 1) := rfl
    rw [if_pos (Int.negSucc_lt_zero m), hs, String.toList_append, Nat.toList_repr]
    rfl

theorem minus_of_stops {s : List Char} (h : Stops (· == '-') s) : minus s = (false, s) := by
  unfold minus
  split
  · exact absurd (h '-' rfl) (by decide)
  · rfl

theorem minus_toDigits (n : Nat) (rest : List Char) :
    minus (Nat.toDigits 10 n ++ rest) = (false, Nat.toDigits 10 n ++ rest) := by
  refine minus_of_stops ?_
  cases h : Nat.toDigits 10 n with
  | nil => exact absurd h Nat.toDigits_ne_nil
  | cons c ds =>
    have hc : isDigit c = true := isDigit_of_mem_toDigits (h ▸ List.mem_cons_self ..)
    refine Stops.cons (beq_eq_false_iff_ne.mpr ?_)
    rintro rfl
    exact absurd hc (by decide)

theorem minus_toString (n : Int) (rest : List Char) :
    minus ((toString n).toList ++ rest) = (decide (n < 0), Nat.toDigits 10 n.natAbs ++ rest) := by
  rw [toList_toString]
  by_cases h : n < 0
  · simp only [h, if_true, decide_true, List.append_assoc]
    rfl
  · simpa only [h, if_false, decide_false, List.nil_append] using minus_toDigits n.natAbs rest

theorem word?_toInt (n : Int64) : word? n.toInt = some n := word?_eq_some_iff.mpr rfl

theorem integer?_toString (n : Int64) {rest : List Char} (hrest : Stops isDigit rest) :
    integer? ((toString n.toInt).toList ++ rest) = some (n, rest) := by
  have hsign : (if n.toInt < 0 then -(n.toInt.natAbs : Int) else n.toInt.natAbs) = n.toInt := by
    split <;> omega
  unfold integer?
  rw [minus_toString]
  simp only [digits?_append Nat.toDigits_ne_nil (fun _ => isDigit_of_mem_toDigits) hrest,
    digitsValue_toDigits, decide_eq_true_eq, hsign, word?_toInt, Option.bind_eq_bind, Option.bind_some]
  rfl

theorem double?_toString (n : Int) {rest : List Char} (hrest : Stops isDigit rest)
    (hpoint : ∀ places, mark? "." rest = some places → Stops isDigit places) :
    double? ((toString n).toList ++ rest) = none := by
  unfold double?
  rw [minus_toString]
  simp only [digits?_append Nat.toDigits_ne_nil (fun _ => isDigit_of_mem_toDigits) hrest,
    Option.bind_eq_bind, Option.bind_some]
  cases h : mark? "." rest with
  | none => rfl
  | some places => rw [Option.bind_some, digits?_of_stops (hpoint places h)]; rfl

/-! ## Where nothing of the kind starts -/

theorem integer?_of_stops {s : List Char} (hminus : Stops (· == '-') s) (hdigit : Stops isDigit s) :
    integer? s = none := by
  simp only [integer?, minus_of_stops hminus, digits?_of_stops hdigit]
  rfl

theorem double?_of_stops {s : List Char} (hminus : Stops (· == '-') s) (hdigit : Stops isDigit s) :
    double? s = none := by
  simp only [double?, minus_of_stops hminus, digits?_of_stops hdigit]
  rfl

theorem letter?_of_stops {s : List Char} (h : Stops (· == '\'') s) : letter? s = none := by
  unfold letter?
  split
  · exact absurd (h '\'' rfl) (by decide)
  · rfl

end TemplateEngine.Scan
