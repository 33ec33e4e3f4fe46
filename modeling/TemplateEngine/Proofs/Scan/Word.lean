/-
  TemplateEngine.Proofs.Scan.Word — what is read of a text that starts with a word or a mark.

  A run of characters is read up to where it stops (`Stops`): a word followed by anything
  but a letter or digit is read as that word and no other.
-/

import TemplateEngine.Proofs.Scan.Spacing
import TemplateEngine.Scan.Word

namespace TemplateEngine.Scan

/-! ## Runs of characters -/

/-- The text does not go on with such a character. -/
def Stops (p : Char → Bool) (rest : List Char) : Prop := ∀ c ∈ rest.head?, p c = false

theorem Stops.nil {p : Char → Bool} : Stops p [] := nofun

theorem Stops.cons {p : Char → Bool} {c : Char} {rest : List Char} (h : p c = false) :
    Stops p (c :: rest) := fun _ hc => Option.some.inj hc ▸ h

theorem Stops.of_append {p : Char → Bool} {t r : List Char} (h : Stops p (t ++ r)) : Stops p t := by
  cases t with
  | nil => exact .nil
  | cons c t => exact fun d hd => h d hd

theorem Stops.mono {p q : Char → Bool} {s : List Char} (h : Stops p s)
    (hq : ∀ c, q c = true → p c = true) : Stops q s := by
  intro c hc
  have := mt (hq c) (by simp [h c hc])
  simpa using this

theorem Stops.char {p : Char → Bool} {s : List Char} (h : Stops p s) {c : Char} (hc : p c = true) :
    Stops (· == c) s := h.mono fun _ he => eq_of_beq he ▸ hc

theorem takeWhile_run {p : Char → Bool} {run rest : List Char} (hrun : ∀ c ∈ run, p c = true)
    (hrest : Stops p rest) : (run ++ rest).takeWhile p = run := by
  rw [List.takeWhile_append_of_pos hrun]
  cases rest with
  | nil => exact List.append_nil run
  | cons c rest => rw [List.takeWhile_cons, hrest c rfl]; exact List.append_nil run

theorem dropWhile_run {p : Char → Bool} {run rest : List Char} (hrun : ∀ c ∈ run, p c = true)
    (hrest : Stops p rest) : (run ++ rest).dropWhile p = rest := by
  rw [List.dropWhile_append_of_pos hrun]
  cases rest with
  | nil => rfl
  | cons c rest => rw [List.dropWhile_cons, hrest c rfl]; rfl

theorem stops_dropWhile {p : Char → Bool} {s : List Char} : Stops p (s.dropWhile p) := by
  intro c hc
  have := List.head?_dropWhile_not p s
  rwa [Option.mem_def.mp hc] at this

/-! ## Marks -/

theorem mark?_append (text : String) (rest : List Char) : mark? text (text.toList ++ rest) = some rest :=
  Text.after?_eq_some_iff.mpr rfl

theorem symbol?_append (text : String) (rest : List Char) :
    symbol? text (text.toList ++ rest) = some (skipSpacing rest) := by
  rw [symbol?, mark?_append]; rfl

theorem mark?_of_stops {p : Char → Bool} {text : String} {s : List Char} (h : Stops p s)
    (ht : text.toList.head?.any p = true) : mark? text s = none := by
  unfold mark?
  cases htext : text.toList with
  | nil => rw [htext] at ht; cases ht
  | cons t ts =>
    rw [htext] at ht
    cases s with
    | nil => rfl
    | cons c cs =>
      have hne : t ≠ c := by
        rintro rfl
        exact Bool.noConfusion (ht.symm.trans (h t rfl))
      rw [Text.after?, if_neg hne]

theorem symbol?_of_stops {p : Char → Bool} {text : String} {s : List Char} (h : Stops p s)
    (ht : text.toList.head?.any p = true) : symbol? text s = none := by
  rw [symbol?, mark?_of_stops h ht]; rfl

/-! ## Words -/

theorem letter_not_digit {c : Char} (h : isLetter c = true) : isDigit c = false := by
  refine Bool.eq_false_iff.mpr fun hd => ?_
  simp only [isLetter, isDigit, Bool.or_eq_true, Bool.and_eq_true, decide_eq_true_eq, beq_iff_eq,
    Char.le_def, UInt32.le_iff_toNat_le] at h hd
  rcases h with ((h | h) | rfl) | rfl
  · have : 'a'.val.toNat = 97 := rfl
    have : '9'.val.toNat = 57 := rfl
    omega
  · have : 'A'.val.toNat = 65 := rfl
    have : '9'.val.toNat = 57 := rfl
    omega
  · exact absurd hd (by decide)
  · exact absurd hd (by decide)

theorem wordEnd?_eq_some_iff {word : String} (hword : ∀ c ∈ word.toList, isLetterOrDigit c = true)
    {s rest : List Char} :
    wordEnd? word s = some rest ↔
      s.takeWhile isLetterOrDigit = word.toList ∧ s.dropWhile isLetterOrDigit = rest := by
  constructor
  · intro h
    unfold wordEnd? at h
    split at h
    · rename_i r hmark
      split at h
      · cases h
      · rename_i hhead
        obtain rfl := Option.some.inj h
        have hs : s = word.toList ++ r := Text.after?_eq_some_iff.mp hmark
        have hstop : Stops isLetterOrDigit r := by
          intro c hc
          rw [Option.mem_def.mp hc] at hhead
          simpa using hhead
        exact hs ▸ ⟨takeWhile_run hword hstop, dropWhile_run hword hstop⟩
    · cases h
  · rintro ⟨htake, hdrop⟩
    have hs : s = word.toList ++ rest := by
      rw [← htake, ← hdrop, List.takeWhile_append_dropWhile]
    have hhead : rest.head?.any isLetterOrDigit = false := by
      have hstop : Stops isLetterOrDigit rest := hdrop ▸ stops_dropWhile
      cases h : rest.head? with
      | none => rfl
      | some c => exact hstop c h
    rw [wordEnd?, hs, mark?_append]
    simp only [hhead]
    rfl

theorem keyword_letters {word : String} (h : isKeyword word = true) :
    ∀ c ∈ word.toList, isLetterOrDigit c = true := by
  have hall : (keywords.all fun w => w.toList.all isLetterOrDigit) = true := by decide
  exact List.all_eq_true.mp (List.all_eq_true.mp hall word (List.contains_iff_mem.mp h))

theorem keyword?_append {word : String} (h : isKeyword word = true) {rest : List Char}
    (hrest : Stops isLetterOrDigit rest) :
    keyword? word (word.toList ++ rest) = some (skipSpacing rest) := by
  have hword := keyword_letters h
  rw [keyword?, (wordEnd?_eq_some_iff hword).mpr ⟨takeWhile_run hword hrest, dropWhile_run hword hrest⟩]
  rfl

/-- A keyword is read only where it is the whole word. -/
theorem keyword?_of_takeWhile {word : String} (h : isKeyword word = true) {s : List Char}
    (hs : s.takeWhile isLetterOrDigit ≠ word.toList) : keyword? word s = none := by
  unfold keyword?
  cases he : wordEnd? word s with
  | none => rfl
  | some rest => exact absurd ((wordEnd?_eq_some_iff (keyword_letters h)).mp he).1 hs

theorem keyword?_of_stops (word : String) {p : Char → Bool} {s : List Char} (h : Stops p s)
    (hword : word.toList.head?.any p = true) : keyword? word s = none := by
  rw [keyword?, wordEnd?, mark?_of_stops h hword]; rfl

/-- A name: a letter, then letters and digits, and no keyword. -/
def isName (name : String) : Bool :=
  name.toList.head?.any isLetter && name.toList.all isLetterOrDigit && !isKeyword name

theorem isName_iff {name : String} :
    isName name = true ↔ (∃ c t, name.toList = c :: t ∧ isLetter c = true) ∧
      (∀ c ∈ name.toList, isLetterOrDigit c = true) ∧ isKeyword name = false := by
  cases h : name.toList <;> simp [isName, h, and_assoc]

theorem identifier?_append {name : String} (h : isName name = true) {rest : List Char}
    (hrest : Stops isLetterOrDigit rest) : identifier? (name.toList ++ rest) = some (name, rest) := by
  obtain ⟨⟨c, t, hhead, hc⟩, hall, hkey⟩ := isName_iff.mp h
  have hany : (name.toList ++ rest).head?.any isLetter = true := by rw [hhead]; exact hc
  simp only [identifier?, takeWhile_run hall hrest, dropWhile_run hall hrest, String.ofList_toList, hany,
    hkey]
  rfl

theorem identifier?_cons {name : String} (h : isName name = true) {c : Char}
    (hc : isLetterOrDigit c = false) (rest : List Char) :
    identifier? (name.toList ++ c :: rest) = some (name, c :: rest) :=
  identifier?_append h (Stops.cons hc)

theorem identifier?_of_stops {s : List Char} (h : Stops isLetter s) : identifier? s = none := by
  unfold identifier?
  cases s with
  | nil => rfl
  | cons c s => simp [h c rfl]

theorem identifier?_keyword {s : List Char}
    (h : isKeyword (String.ofList (s.takeWhile isLetterOrDigit)) = true) : identifier? s = none := by
  simp only [identifier?, h, Bool.not_true, Bool.and_false]
  rfl

end TemplateEngine.Scan
