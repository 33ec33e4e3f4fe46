/-
  TemplateEngine.Proofs.Position — places in a source.

  The place in front of what is left of a source is the place that is reached once what
  stands in front of it has been read.
-/

import TemplateEngine.Position

namespace TemplateEngine

theorem Text.beforeByte_append (a b : List Char) : Text.beforeByte (Text.utf8Size a) (a ++ b) = a := by
  induction a with
  | nil =>
    cases b with
    | nil => rfl
    | cons c b =>
      have hc := c.utf8Size_pos
      rw [List.nil_append, Text.utf8Size, Text.beforeByte, if_neg (by omega)]
  | cons c a ih =>
    rw [Text.utf8Size, List.cons_append, Text.beforeByte, if_pos (by omega), Nat.add_sub_cancel_left, ih]

theorem Text.utf8Size_lt_of_suffix {rest s : List Char} (h : rest <:+ s) (hlen : rest.length < s.length) :
    Text.utf8Size rest < Text.utf8Size s := by
  obtain ⟨front, rfl⟩ := h
  cases front with
  | nil => exact absurd hlen (Nat.lt_irrefl _)
  | cons c front =>
    have hc := c.utf8Size_pos
    rw [List.cons_append, Text.utf8Size, Text.utf8Size_append]
    omega

theorem Text.utf8Size_le_of_suffix {rest s : List Char} (h : rest <:+ s) :
    Text.utf8Size rest ≤ Text.utf8Size s := by
  obtain ⟨front, rfl⟩ := h
  rw [Text.utf8Size_append]
  exact Nat.le_add_left ..

/-- The bytes of a string are those of its characters. -/
theorem Text.utf8Size_toList (s : String) : Text.utf8Size s.toList = s.utf8ByteSize := by
  have hlist (cs : List Char) : Text.utf8Size cs = (String.ofList cs).utf8ByteSize := by
    induction cs with
    | nil => rfl
    | cons c cs ih =>
      have hsplit : String.ofList (c :: cs) = String.singleton c ++ String.ofList cs := by
        rw [String.singleton_eq_ofList, ← String.ofList_append]
        rfl
      rw [hsplit, String.utf8ByteSize_append, String.utf8ByteSize_singleton, Text.utf8Size, ih]
  rw [hlist, String.ofList_toList]

namespace Position

theorem ofOffset_append (front rest : List Char) :
    ofOffset (front ++ rest) (Text.utf8Size front) = after front := by
  rw [ofOffset, Text.beforeByte_append]

/-- What has been read up to a place is what stands in front of it. -/
theorem before_append (front rest : List Char) : before (front ++ rest) rest = after front := by
  rw [before, Text.utf8Size_append, Nat.add_sub_cancel, ofOffset_append]

/-- Behind a piece of the source the place is as many bytes further on as the piece has. -/
theorem offset_before_append (front piece rest : List Char) :
    (before (front ++ (piece ++ rest)) rest).offset =
      (before (front ++ (piece ++ rest)) (piece ++ rest)).offset + Text.utf8Size piece := by
  rw [before_append, ← List.append_assoc, before_append]
  exact Text.utf8Size_append front piece

/-- A position in the second of two texts, in the text that they make together. -/
def behind (front rest : List Char) (position : Position) : Position :=
  ofOffset (front ++ rest) (Text.utf8Size front + position.offset)

/-- A place keeps what follows it. -/
theorem behind_before (front : List Char) {s rest : List Char} (h : rest <:+ s) :
    behind front s (before s rest) = before (front ++ s) rest := by
  obtain ⟨inside, rfl⟩ := h
  rw [before_append, behind, ← List.append_assoc, before_append, after, ← Text.utf8Size_append]
  exact ofOffset_append (front ++ inside) rest

theorem before_self (source : List Char) : before source source = ⟨0, 1, 1⟩ := before_append [] source

end Position

end TemplateEngine
