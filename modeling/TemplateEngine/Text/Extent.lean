/-
  TemplateEngine.Text.Extent — how many bytes a run of characters takes in UTF-8, and
  where a byte count falls in it.

  Places in a source are counted in bytes, while everything that reads a source walks
  over characters. A byte count inside a character belongs to the character's start:
  `beforeByte` takes whole characters only.
-/

namespace TemplateEngine.Text

def utf8Size : List Char → Nat
  | [] => 0
  | c :: cs => c.utf8Size + utf8Size cs

/-- The longest run of whole characters from the start that fits in `n` bytes. -/
def beforeByte : Nat → List Char → List Char
  | _, [] => []
  | n, c :: cs => if c.utf8Size ≤ n then c :: beforeByte (n - c.utf8Size) cs else []

/-- What is left after the whole characters that fit in `n` bytes. -/
def afterByte : Nat → List Char → List Char
  | _, [] => []
  | n, c :: cs => if c.utf8Size ≤ n then afterByte (n - c.utf8Size) cs else c :: cs

/-- What is left once `p` has been read, if the text starts with `p`. -/
def after? : List Char → List Char → Option (List Char)
  | [], cs => some cs
  | _ :: _, [] => none
  | p :: ps, c :: cs => if p = c then after? ps cs else none

/-- Whether `needle` occurs anywhere in the text. -/
def contains (needle : List Char) : List Char → Bool
  | [] => needle.isEmpty
  | c :: cs => (after? needle (c :: cs)).isSome || contains needle cs

theorem beforeByte_append_afterByte (n : Nat) (cs : List Char) :
    beforeByte n cs ++ afterByte n cs = cs := by
  induction cs generalizing n with
  | nil => rfl
  | cons c cs ih => by_cases h : c.utf8Size ≤ n <;> simp [beforeByte, afterByte, h, ih]

theorem utf8Size_append (a b : List Char) : utf8Size (a ++ b) = utf8Size a + utf8Size b := by
  induction a with
  | nil => simp [utf8Size]
  | cons c a ih => simp [utf8Size, ih, Nat.add_assoc]

theorem utf8Size_beforeByte_le (n : Nat) (cs : List Char) : utf8Size (beforeByte n cs) ≤ n := by
  induction cs generalizing n with
  | nil => simp [beforeByte, utf8Size]
  | cons c cs ih =>
    by_cases h : c.utf8Size ≤ n
    · have := ih (n - c.utf8Size)
      simp only [beforeByte, h, if_true, utf8Size]
      omega
    · simp [beforeByte, h, utf8Size]

theorem after?_eq_some_iff {p cs rest : List Char} : after? p cs = some rest ↔ cs = p ++ rest := by
  induction p generalizing cs with
  | nil => simp [after?]
  | cons x p ih =>
    cases cs with
    | nil => simp [after?]
    | cons c cs => by_cases h : x = c <;> simp [after?, h, ih, eq_comm]

end TemplateEngine.Text
