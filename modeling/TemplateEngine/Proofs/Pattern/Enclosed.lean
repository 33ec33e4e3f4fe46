/-
  TemplateEngine.Proofs.Pattern.Enclosed — a pattern between the anchors of a whole text.

  A pattern that is one by itself is the same between the brackets of a group, with anchors
  in front and behind: its alternatives end where the group does. If a comment at its end has
  taken the end of the group, there is no pattern between the anchors at all.

  Proved:
  - `alternatives_carries_upTo`: alternatives and sequences are read alike, with what is in
    force behind them.
  - `parse?_anchored`: between anchors a pattern is read as itself between two looks.
  - `compile_lawful`: what the expressions describe is what the operator goes by.
-/

import TemplateEngine.Proofs.Operator.Matching
import TemplateEngine.Proofs.Pattern.Ending
import TemplateEngine.Proofs.Pattern.Places

namespace TemplateEngine.Pattern

variable {α : Type} (f : Flags)

/-! ## Groups and flags -/

theorem flags?_carries (names : List (List Char)) (on : Bool) (seen : List Char) :
    Carries (flags? f names on seen) := by
  intro s s' a r hs h
  induction s generalizing f on seen s' with
  | nil =>
    rw [flags?] at h
    cases h
  | cons c s ih =>
    obtain ⟨rest, rfl, hrest⟩ := hs.of_cons
    rw [flags?] at h ⊢
    split at h
    · rename_i hend
      rw [if_pos hend]
      split at h
      · cases h
      · rename_i hhyphen
        rw [if_neg hhyphen]
        cases h
        exact ⟨rest, rfl, hrest⟩
    · rename_i hend
      rw [if_neg hend]
      split at h
      · cases h
      · rename_i htwice
        rw [if_neg htwice]
        split at h
        · rename_i hhyphen
          rw [if_pos hhyphen]
          exact ih f false _ hrest h
        · rename_i hhyphen
          rw [if_neg hhyphen]
          obtain ⟨flags, hflags, h⟩ := Option.bind_eq_some_iff.mp h
          rw [hflags]
          exact ih flags on _ hrest h

theorem groupName?_carries : Carries groupName? := by
  intro s s' a r hs h
  rcases hs with rfl | rfl
  · unfold groupName? at h ⊢
    rcases until_append (c := '>') (by decide) (by decide) s with ⟨-, hnone⟩ | ⟨htake, hdrop⟩
    · rw [hnone] at h
      cases h
    · rw [htake, hdrop]
      cases hrest : s.dropWhile (· != '>') with
      | nil =>
        rw [hrest] at h
        cases h
      | cons c rest =>
        rw [hrest] at h
        dsimp only [List.cons_append] at h ⊢
        split at h
        · rename_i hname
          rw [if_pos hname]
          cases h
          exact ⟨r ++ ending, rfl, .inl rfl⟩
        · cases h
  · exact ⟨r, h, .inr rfl⟩

theorem namedGroup?_carries (names : List (List Char)) : Carries (namedGroup? f names) := by
  refine groupName?_carries.bind fun name => ?_
  intro rest rest' a r hrest h
  dsimp only at h ⊢
  split at h
  · cases h
  · rename_i hnew
    rw [if_neg hnew]
    exact carries_some _ hrest h

theorem flagged?_carries (names : List (List Char)) : Carries (flagged? f names) := by
  intro s s' a r hs h
  unfold flagged? at h
  split at h
  · cases h
  · obtain ⟨rest', rfl, hrest⟩ := hs.of_cons
    exact namedGroup?_carries f names hrest h
  · obtain ⟨tail, rfl, htail⟩ := hs.of_cons
    obtain ⟨rest', rfl, hrest⟩ := htail.of_cons
    exact namedGroup?_carries f names hrest h
  · rename_i hclose hname hmark
    cases s with
    | nil => cases h
    | cons c s =>
      obtain ⟨r', hr', hr⟩ := flags?_carries f names true [] hs h
      obtain ⟨rest, rfl, hrest⟩ := hs.of_cons
      refine ⟨r', ?_, hr⟩
      unfold flagged?
      split
      · rename_i heq
        cases heq
        exact absurd rfl (hclose s)
      · rename_i heq
        cases heq
        exact absurd rfl (hname s)
      · rename_i heq
        cases heq
        exact absurd rfl (hrest.ne_cons (by decide) (fun tail heq => hmark tail (heq ▸ rfl)) _)
      · exact hr'

theorem opening?_carries (names : List (List Char)) : Carries (opening? f names) := by
  intro s s' a r hs h
  have hskip := hs.skip f
  unfold opening? at h ⊢
  split at h
  · rename_i rest hmark
    rw [hmark] at hskip
    obtain ⟨rest', hrest', hrest⟩ := hskip.of_cons
    obtain ⟨r', hr', hr⟩ := flagged?_carries f names hrest h
    exact ⟨r', by rw [hrest']; exact hr', hr⟩
  · rename_i hmark
    cases h
    refine ⟨skip f s', ?_, hskip⟩
    split
    · rename_i heq
      exact absurd heq (hskip.ne_cons (by decide) (fun rest heq => hmark rest heq) _)
    · rfl

/-! ## Repetitions -/

theorem dropBlanks {s s' : List Char} (hs : WithEnding s s') :
    WithEnding (s.dropWhile Text.isBlank) (s'.dropWhile Text.isBlank) := by
  rcases hs with rfl | rfl
  · refine .inl ?_
    induction s with
    | nil => rfl
    | cons c s ih =>
      rw [List.cons_append, List.dropWhile_cons, List.dropWhile_cons]
      split
      · exact ih
      · rfl
  · exact .inr rfl

theorem count?_carries : Carries (count? f) := by
  intro s s' a r hs h
  unfold count? at h ⊢
  rcases hsigns : signs f Scan.isDigit (s.dropWhile Text.isBlank) with ⟨ds, rest⟩
  obtain ⟨rest', hsigns', hrest⟩ := signs_carries f (by decide) (dropBlanks hs) hsigns
  rw [hsigns] at h
  rw [hsigns']
  dsimp only at h ⊢
  split at h
  · cases h
  · rename_i hvalue
    rw [if_neg hvalue]
    exact carries_skip f _ (dropBlanks hrest) h

theorem largest?_carries (low : Nat) : Carries (largest? f low) := by
  intro s s' a r hs h
  unfold largest? at h ⊢
  split at h
  · obtain ⟨rest', rfl, hrest⟩ := hs.of_cons
    exact carries_some _ hrest h
  · rename_i hbrace
    split
    · exact absurd rfl (hs.ne_cons (by decide) (fun rest heq => hbrace rest heq) _)
    refine (count?_carries f).bind (fun high => ?_) hs h
    intro rest rest' a r hrest h
    dsimp only at h
    split at h
    · rename_i heq
      cases heq
      obtain ⟨after', rfl, hafter⟩ := hrest.of_cons
      split at h
      · rename_i hle
        cases h
        exact ⟨after', if_pos hle, hafter⟩
      · cases h
    · cases h

theorem counts?_carries : Carries (counts? f) := by
  intro s s' a r hs h
  refine (count?_carries f).bind (fun low => ?_) (hs.skip f) h
  intro rest rest' a r hrest h
  dsimp only at h
  split at h
  · rename_i heq
    cases heq
    obtain ⟨after', rfl, hafter⟩ := hrest.of_cons
    exact (largest?_carries f low).bind (fun high => carries_some (low, high)) (hafter.skip f) h
  · rename_i heq
    cases heq
    obtain ⟨after', rfl, hafter⟩ := hrest.of_cons
    exact carries_some _ hafter h
  · cases h

theorem reluctant_withEnding {s s' : List Char} (hs : WithEnding s s') :
    WithEnding (reluctant s) (reluctant s') := by
  unfold reluctant
  split
  · obtain ⟨rest', rfl, hrest⟩ := hs.of_cons
    exact hrest
  · rename_i hmark
    split
    · exact absurd rfl (hs.ne_cons (by decide) (fun rest heq => hmark rest heq) _)
    · exact hs

theorem copies?_carries (c : Char) : Carries (copies? f c) := by
  intro s s' a r hs h
  unfold copies? at h ⊢
  split at h
  case h_4 =>
    obtain ⟨⟨counts, rest⟩, hcounts, h⟩ := Option.bind_eq_some_iff.mp h
    cases h
    obtain ⟨rest', hcounts', hrest⟩ := counts?_carries f hs hcounts
    exact ⟨_, by rw [hcounts']; rfl, reluctant_withEnding (hrest.skip f)⟩
  all_goals
    cases h
    exact ⟨reluctant s', rfl, reluctant_withEnding hs⟩

/-! ## Sequences and alternatives -/

theorem sign?_carries (c : Char) : Carries (sign? f c) := by
  intro s s' a r hs h
  unfold sign? at h ⊢
  split at h
  · have hle := Nat.add_le_add_right (Nat.mul_le_mul_left 2 hs.length_le) 2
    refine ((class_carries f _).1 _ hle).bind (fun p => ?_) hs h
    exact carries_some (Part.mk (Regex.char p.value) p.height true)
  case h_3 | h_4 => exact carries_some _ hs h
  case h_5 =>
    refine (escape?_carries f).bind (fun atom => ?_) hs h
    exact .given (x := atomRegex? f atom) fun regex => carries_some (Part.mk regex 0 true)
  case h_2 => exact CarriedBy.given (fun set => carries_some (Part.mk (Regex.char set) 0 true)) hs h
  case h_6 => exact CarriedBy.given (fun regex => carries_some (Part.mk regex 0 true)) hs h

/-- What one reader reads of a pattern from a state the other reads with the ending behind it. -/
def StateCarriedBy (reader reader' : State → Option (α × State)) : Prop :=
  ∀ ⦃f f' : Flags⦄ ⦃names names' : List (List Char)⦄ ⦃s s' r : List Char⦄ ⦃a : α⦄, WithEnding s s' →
    reader ⟨f, names, s⟩ = some (a, ⟨f', names', r⟩) →
      ∃ r', reader' ⟨f, names, s'⟩ = some (a, ⟨f', names', r'⟩) ∧ WithEnding r r'

section
variable {n m : Nat} (hsequence : ∀ parts, StateCarriedBy (sequence n parts) (sequence m parts))
  (halternatives : StateCarriedBy (alternatives n) (alternatives m))
include hsequence halternatives

theorem alternatives_carries : StateCarriedBy (alternatives (n + 1)) (alternatives (m + 1)) := by
  intro f f' names names' s s' r a hs h
  rw [alternatives] at h ⊢
  obtain ⟨⟨first, ⟨_, _, rest⟩⟩, hfirst, h⟩ := Option.bind_eq_some_iff.mp h
  obtain ⟨rest', hfirst', hrest⟩ := hsequence [] hs hfirst
  rw [hfirst', Option.bind_eq_bind, Option.bind_some]
  dsimp only at h ⊢
  split at h
  · obtain ⟨⟨more, _⟩, hmore, h⟩ := Option.bind_eq_some_iff.mp h
    cases h
    obtain ⟨tail', rfl, htail⟩ := hrest.of_cons
    obtain ⟨r', hmore', hr⟩ := halternatives htail hmore
    exact ⟨r', by simp [hmore'], hr⟩
  · rename_i hbar
    cases h
    refine ⟨rest', ?_, hrest⟩
    split
    · exact absurd rfl (hrest.ne_cons (by decide) (fun rest heq => hbar rest heq) _)
    · rfl

theorem sequence_carries (parts : List (Part Regex)) :
    StateCarriedBy (sequence (n + 1) parts) (sequence (m + 1) parts) := by
  intro f f' names names' s s' r a hs h
  have hskip := hs.skip f
  rw [sequence] at h ⊢
  dsimp only at h ⊢
  cases hs' : skip f s with
  | nil =>
    rw [hs'] at h hskip
    cases h
    -- either a comment has taken the ending too, or its parenthesis ends the sequence
    rcases hskip.of_nil with hend | hend
    · exact ⟨[], by rw [hend], .inr rfl⟩
    · exact ⟨ending, by rw [hend]; rfl, .inl rfl⟩
  | cons c rest =>
    rw [hs'] at h hskip
    obtain ⟨rest', hrest', hrest⟩ := hskip.of_cons
    rw [hrest']
    dsimp only at h ⊢
    split at h
    · rename_i hend
      rw [if_pos hend]
      cases h
      exact ⟨c :: rest', rfl, hrest.cons c⟩
    rename_i hend
    rw [if_neg hend]
    split at h
    · rename_i hopen
      rw [if_pos hopen]
      obtain ⟨⟨opening, after⟩, hopening, h⟩ := Option.bind_eq_some_iff.mp h
      obtain ⟨after', hopening', hafter⟩ := opening?_carries f names hrest hopening
      rw [hopening', Option.bind_eq_bind, Option.bind_some]
      cases opening with
      | flags flags => exact hsequence _ hafter h
      | group flags inner isMarked =>
        dsimp only at h ⊢
        obtain ⟨⟨branches, ⟨_, _, behind⟩⟩, hbranches, h⟩ := Option.bind_eq_some_iff.mp h
        obtain ⟨behind', hbranches', hbehind⟩ := halternatives hafter hbranches
        rw [hbranches', Option.bind_eq_bind, Option.bind_some]
        dsimp only at h ⊢
        split at h
        · obtain ⟨tail', rfl, htail⟩ := hbehind.of_cons
          exact hsequence _ htail h
        · cases h
    rename_i hopen
    rw [if_neg hopen]
    split at h
    · rename_i hrepeats
      rw [if_pos hrepeats]
      obtain ⟨⟨⟨min, max⟩, after⟩, hcopies, h⟩ := Option.bind_eq_some_iff.mp h
      obtain ⟨repeated, hrepeated, h⟩ := Option.bind_eq_some_iff.mp h
      obtain ⟨after', hcopies', hafter⟩ := copies?_carries f c hrest hcopies
      rw [hcopies', Option.bind_eq_bind, Option.bind_some]
      dsimp only
      rw [hrepeated]
      exact hsequence _ hafter h
    · rename_i hrepeats
      rw [if_neg hrepeats]
      obtain ⟨⟨part, after⟩, hsign, h⟩ := Option.bind_eq_some_iff.mp h
      obtain ⟨after', hsign', hafter⟩ := sign?_carries f c hrest hsign
      rw [hsign']
      exact hsequence _ hafter h

end

theorem alternatives_carries_upTo (n : Nat) :
    (∀ m, n ≤ m → StateCarriedBy (alternatives n) (alternatives m)) ∧
    ∀ m, n ≤ m → ∀ parts, StateCarriedBy (sequence n parts) (sequence m parts) := by
  induction n with
  | zero =>
    constructor
    · intro m _ f f' names names' s s' r a _ h
      exact absurd h (by simp [alternatives])
    · intro m _ parts f f' names names' s s' r a _ h
      exact absurd h (by simp [sequence])
  | succ n ih =>
    obtain ⟨halternatives, hsequence⟩ := ih
    exact ⟨forall_ge_succ fun m hm => alternatives_carries (hsequence m hm) (halternatives m hm),
      forall_ge_succ fun m hm => sequence_carries (hsequence m hm) (halternatives m hm)⟩

/-! ## Anchors -/

section
variable (n : Nat) (parts : List (Part Regex)) (names : List (List Char)) (rest : List Char)

theorem sequence_start : sequence (n + 1) parts ⟨{}, names, '^' :: rest⟩ =
    sequence n (⟨.look .textStart, 0, true⟩ :: parts) ⟨{}, names, rest⟩ := rfl

theorem sequence_end : sequence (n + 1) parts ⟨{}, names, '$' :: rest⟩ =
    sequence n (⟨.look .textEnd, 0, true⟩ :: parts) ⟨{}, names, rest⟩ := rfl

theorem sequence_group : sequence (n + 1) parts ⟨{}, names, '(' :: '?' :: ':' :: rest⟩ = (do
    let (branches, after) ← alternatives n ⟨{}, names, rest⟩
    match after.rest with
    | ')' :: rest => sequence n (groupPart false (alternativePart branches) :: parts) ⟨{}, after.names, rest⟩
    | _ => none) := rfl

theorem sequence_nil : sequence (n + 1) parts ⟨{}, names, []⟩ = some (sequencePart parts, ⟨{}, names, []⟩) := rfl

end

theorem parse?_eq_some {pattern : List Char} {r : Regex} (h : parse? pattern = some r) :
    ∃ branches f names, alternatives (2 * pattern.length + 2) ⟨{}, [], pattern⟩ = some (branches, ⟨f, names, []⟩) ∧
      r = (alternativePart branches).value := by
  obtain ⟨⟨branches, ⟨f, names, rest⟩⟩, hread, h⟩ := Option.bind_eq_some_iff.mp h
  dsimp only at h
  split at h
  · rename_i hwhole
    simp only [Bool.and_eq_true, List.isEmpty_iff] at hwhole
    obtain ⟨⟨rfl, -⟩, -⟩ := hwhole
    exact ⟨branches, f, names, hread, (Option.some.inj h).symm⟩
  · cases h

theorem parse?_anchored {pattern : List Char} {r r' : Regex} (h : parse? pattern = some r)
    (h' : parse? ('^' :: '(' :: '?' :: ':' :: (pattern ++ ending)) = some r') :
    r' = .seq (.look .textStart) (.seq r (.look .textEnd)) := by
  obtain ⟨branches, f, names, hread, rfl⟩ := parse?_eq_some h
  obtain ⟨branches', f', names', hread', rfl⟩ := parse?_eq_some h'
  obtain ⟨rest, hinner, hrest⟩ :=
    (alternatives_carries_upTo _).1 (2 * pattern.length + 2 + 9) (Nat.le_add_right ..) (.inl rfl) hread
  have hlength : 2 * ('^' :: '(' :: '?' :: ':' :: (pattern ++ ending)).length + 2 =
      2 * pattern.length + 2 + 9 + 3 := by
    simp only [List.length_cons, List.length_append, ending, List.length_nil]
    omega
  rw [hlength, alternatives, sequence_start, sequence_group, hinner] at hread'
  rcases hrest.of_nil with rfl | rfl
  · -- the group would have no end
    cases hread'
  · simp only [Option.bind_eq_bind, Option.bind_some, ending, sequence_end, sequence_nil] at hread'
    cases hread'
    rfl

/-! ## Whole texts -/

theorem anchored_toList (pattern : String) :
    (Operator.anchored pattern).toList = '^' :: '(' :: '?' :: ':' :: (pattern.toList ++ ending) := by
  simp [Operator.anchored, String.toList_append, ending]

theorem compile_eq_ok {pattern : String} {test : String → Bool} (h : compile pattern = .ok test) :
    ∃ r, parse? pattern.toList = some r ∧ test = r.occursIn := by
  unfold compile at h
  split at h
  · rename_i r hr
    exact ⟨r, hr, (Except.ok.inj h).symm⟩
  · cases h

/-- The pattern is an expression that describes the characters from one place to another. -/
def Describes (pattern : String) (text : List Char) (i j : Nat) : Prop :=
  i ≤ text.length ∧ ∃ r, parse? pattern.toList = some r ∧ r.describes text.toArray i j

theorem compile_lawful : Operator.Patterns.Lawful compile Describes where
  searches := by
    intro pattern test h text
    obtain ⟨r, hr, rfl⟩ := compile_eq_ok h
    simp only [r.occursIn_iff, Describes, hr, Option.some.injEq, exists_eq_left']
  anchored := by
    intro pattern alone test halone htest text i j
    obtain ⟨r, hr, -⟩ := compile_eq_ok halone
    obtain ⟨r', hr', -⟩ := compile_eq_ok htest
    have hlooks := parse?_anchored hr (anchored_toList pattern ▸ hr')
    simp only [Describes, hr, hr', Option.some.injEq, exists_eq_left', hlooks, Regex.describes, Look.holds,
      beq_iff_eq, List.size_toArray]
    constructor
    · rintro ⟨hi, _, ⟨rfl, rfl⟩, _, hdescribes, rfl, rfl⟩
      exact ⟨rfl, rfl, hi, hdescribes⟩
    · rintro ⟨rfl, rfl, hi, hdescribes⟩
      exact ⟨hi, 0, ⟨rfl, rfl⟩, text.length, hdescribes, rfl, rfl⟩

end TemplateEngine.Pattern
