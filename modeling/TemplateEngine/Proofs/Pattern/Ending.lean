/-
  TemplateEngine.Proofs.Pattern.Ending — signs and classes in front of the end of a group.

  What the parser reads of a pattern it reads as well with the end of a group and an anchor
  behind the pattern: no sign, escape or class that is read to its end goes on with them.
  Only a comment at the end of the pattern takes them in, and then nothing at all is left
  (`WithEnding`).

  Proved: `Carries` for the readers of signs and escapes, `CarriesUpTo` for those that run
  up to a bound.
-/

import TemplateEngine.Pattern.Parser

namespace TemplateEngine.Pattern

/-- The end of a group and an anchor. -/
def ending : List Char := [')', '$']

/-- What is left of a pattern, and what is left of it with the ending behind it: the ending too,
    unless a comment has taken it. -/
def WithEnding (s s' : List Char) : Prop := s' = s ++ ending ∨ s' = s

namespace WithEnding

variable {s s' : List Char} {c : Char}

theorem cons (h : WithEnding s s') (c : Char) : WithEnding (c :: s) (c :: s') :=
  h.imp (congrArg (c :: ·)) (congrArg (c :: ·))

theorem of_nil (h : WithEnding [] s') : s' = [] ∨ s' = ending := h.symm

theorem of_cons (h : WithEnding (c :: s) s') : ∃ rest, s' = c :: rest ∧ WithEnding s rest :=
  h.elim (fun h => ⟨s ++ ending, h, .inl rfl⟩) fun h => ⟨s, h, .inr rfl⟩

/-- Nothing but the parenthesis can stand only where the ending does. -/
theorem ne_cons (h : WithEnding s s') (hc : c ≠ ')') (hne : ∀ rest, s ≠ c :: rest) (rest : List Char) :
    s' ≠ c :: rest := by
  cases s with
  | nil =>
    rcases h.of_nil with rfl | rfl
    · exact fun heq => absurd heq (by simp)
    · exact fun heq => hc (List.cons.inj heq).1.symm
  | cons d s =>
    obtain ⟨tail, rfl, -⟩ := h.of_cons
    exact fun heq => hne s (by rw [(List.cons.inj heq).1])

theorem length_le (h : WithEnding s s') : s.length ≤ s'.length := by
  rcases h with rfl | rfl
  · exact List.length_append ▸ Nat.le_add_right ..
  · exact Nat.le_refl _

theorem head?_eq (h : WithEnding s s') (hc : c ≠ ')') : s'.head? = some c ↔ s.head? = some c := by
  cases s with
  | nil =>
    rcases h.of_nil with rfl | rfl
    · rfl
    · simp [ending, Ne.symm hc]
  | cons d s =>
    obtain ⟨rest, rfl, -⟩ := h.of_cons
    rfl

/-! ## Blanks and comments -/

theorem skipNotes_append (inNote : Bool) (s : List Char) :
    skipNotes inNote (s ++ ending) = skipNotes inNote s ++ ending ∨
      skipNotes inNote s = [] ∧ skipNotes inNote (s ++ ending) = [] := by
  induction s generalizing inNote with
  | nil =>
    cases inNote with
    | true => exact .inr ⟨rfl, rfl⟩
    | false => exact .inl rfl
  | cons c s ih =>
    cases inNote with
    | true => exact ih _
    | false =>
      rw [List.cons_append, skipNotes, skipNotes]
      split
      · exact ih false
      · split
        · exact ih true
        · exact .inl rfl

theorem skip (h : WithEnding s s') (f : Flags) : WithEnding (skip f s) (skip f s') := by
  rcases h with rfl | rfl
  · unfold Pattern.skip
    split
    · rcases skipNotes_append false s with happend | ⟨hnone, hnone'⟩
      · exact .inl happend
      · exact .inr (hnone'.trans hnone.symm)
    · exact .inl rfl
  · exact .inr rfl

end WithEnding

theorem skipNotes_length_le (inNote : Bool) (s : List Char) : (skipNotes inNote s).length ≤ s.length := by
  induction s generalizing inNote with
  | nil => simp [skipNotes]
  | cons c s ih =>
    cases inNote with
    | true => exact Nat.le_succ_of_le (ih _)
    | false =>
      rw [skipNotes]
      split
      · exact Nat.le_succ_of_le (ih _)
      · split
        · exact Nat.le_succ_of_le (ih _)
        · exact Nat.le_refl _

theorem skip_length_le (f : Flags) (s : List Char) : (skip f s).length ≤ s.length := by
  unfold skip
  split
  · exact skipNotes_length_le false s
  · exact Nat.le_refl _

/-! ## Readers -/

variable {α β : Type}

/-- What one reader reads of a pattern the other reads with the ending behind it. -/
def CarriedBy (reader reader' : List Char → Option (α × List Char)) : Prop :=
  ∀ ⦃s s' : List Char⦄ ⦃a : α⦄ ⦃r : List Char⦄, WithEnding s s' → reader s = some (a, r) →
    ∃ r', reader' s' = some (a, r') ∧ WithEnding r r'

/-- The reader itself reads the same with the ending behind it. -/
abbrev Carries (reader : List Char → Option (α × List Char)) : Prop := CarriedBy reader reader

/-- With a larger bound the reader reads the same with the ending behind it. -/
def CarriesUpTo (reader : Nat → List Char → Option (α × List Char)) (n : Nat) : Prop :=
  ∀ m, n ≤ m → CarriedBy (reader n) (reader m)

theorem CarriedBy.bind {reader reader' : List Char → Option (α × List Char)}
    {next next' : α × List Char → Option (β × List Char)} (h : CarriedBy reader reader')
    (hnext : ∀ a, CarriedBy (fun r => next (a, r)) (fun r => next' (a, r))) :
    CarriedBy (fun s => reader s >>= next) (fun s => reader' s >>= next') := by
  intro s s' b t hs hread
  obtain ⟨⟨a, r⟩, hfirst, hread⟩ := Option.bind_eq_some_iff.mp hread
  obtain ⟨r', hfirst', hr⟩ := h hs hfirst
  obtain ⟨t', hread', ht⟩ := hnext a hr hread
  exact ⟨t', Option.bind_eq_some_iff.mpr ⟨(a, r'), hfirst', hread'⟩, ht⟩

/-- What is not read, but may be missing. -/
theorem CarriedBy.given {x : Option α} {next next' : α → List Char → Option (β × List Char)}
    (h : ∀ a, CarriedBy (next a) (next' a)) :
    CarriedBy (fun s => x >>= fun a => next a s) (fun s => x >>= fun a => next' a s) := by
  intro s s' b t hs hread
  obtain ⟨a, hx, hread⟩ := Option.bind_eq_some_iff.mp hread
  obtain ⟨t', hread', ht⟩ := h a hs hread
  exact ⟨t', Option.bind_eq_some_iff.mpr ⟨a, hx, hread'⟩, ht⟩

theorem carries_some (a : α) : Carries fun s => some (a, s) := by
  rintro s s' _ _ hs ⟨⟩
  exact ⟨s', rfl, hs⟩

theorem carries_skip (f : Flags) (a : α) : Carries fun s => some (a, skip f s) := by
  rintro s s' _ _ hs ⟨⟩
  exact ⟨skip f s', rfl, hs.skip f⟩

theorem forall_ge_succ {n : Nat} {P : Nat → Prop} (h : ∀ m, n ≤ m → P (m + 1)) : ∀ m, n + 1 ≤ m → P m
  | 0, hm => absurd hm (Nat.not_succ_le_zero n)
  | m + 1, hm => h m (Nat.le_of_succ_le_succ hm)

variable (f : Flags)

/-! ## Signs in a row -/

theorem signsUpTo_ending {accept : Char → Bool} (hparen : accept ')' = false) (n : Nat) {s : List Char}
    (hs : WithEnding [] s) : signsUpTo f accept n s = ([], s) := by
  cases n with
  | zero => rfl
  | succ n =>
    rcases hs.of_nil with rfl | rfl
    · rfl
    · show (if accept ')' = true then _ else ([], ending)) = _
      rw [hparen]
      rfl

/-- The ending has no sign for a test that does not accept its parenthesis. -/
theorem signsUpTo_carries {accept : Char → Bool} (hparen : accept ')' = false) {n m : Nat} {s s' cs r : List Char}
    (hn : s.length ≤ n) (hm : s'.length ≤ m) (hs : WithEnding s s') (h : signsUpTo f accept n s = (cs, r)) :
    ∃ r', signsUpTo f accept m s' = (cs, r') ∧ WithEnding r r' := by
  induction n generalizing m s s' cs r with
  | zero =>
    obtain rfl := List.eq_nil_of_length_eq_zero (Nat.le_zero.mp hn)
    cases h
    exact ⟨s', signsUpTo_ending f hparen m hs, hs⟩
  | succ n ih =>
    cases s with
    | nil =>
      cases h
      exact ⟨s', signsUpTo_ending f hparen m hs, hs⟩
    | cons c rest =>
      obtain ⟨rest', rfl, hrest⟩ := hs.of_cons
      cases m with
      | zero => exact absurd hm (Nat.not_succ_le_zero _)
      | succ m =>
        rw [signsUpTo] at h ⊢
        dsimp only at h ⊢
        split at h
        · rename_i haccept
          rw [if_pos haccept]
          cases hmore : signsUpTo f accept n (skip f rest) with
          | mk cs after =>
            rw [hmore] at h
            cases h
            obtain ⟨after', hmore', hafter⟩ := ih (Nat.le_trans (skip_length_le f rest) (Nat.le_of_succ_le_succ hn))
              (Nat.le_trans (skip_length_le f rest') (Nat.le_of_succ_le_succ hm)) (hrest.skip f) hmore
            exact ⟨after', by rw [hmore'], hafter⟩
        · rename_i haccept
          rw [if_neg haccept]
          cases h
          exact ⟨c :: rest', rfl, hs⟩

theorem signs_carries {accept : Char → Bool} (hparen : accept ')' = false) {s s' cs r : List Char}
    (hs : WithEnding s s') (h : signs f accept s = (cs, r)) :
    ∃ r', signs f accept s' = (cs, r') ∧ WithEnding r r' :=
  signsUpTo_carries f hparen (Nat.le_refl _) (Nat.le_refl _) hs h

/-- A text up to a sign that the ending does not have is the same with the ending behind it. -/
theorem until_append {c : Char} (hparen : ')' ≠ c) (hdollar : '$' ≠ c) (s : List Char) :
    (s ++ ending).dropWhile (· != c) = [] ∧ s.dropWhile (· != c) = [] ∨
      (s ++ ending).takeWhile (· != c) = s.takeWhile (· != c) ∧
        (s ++ ending).dropWhile (· != c) = s.dropWhile (· != c) ++ ending := by
  induction s with
  | nil => exact .inl ⟨by simp [ending, hparen, hdollar], rfl⟩
  | cons d s ih =>
    by_cases hd : d = c
    · subst hd
      simp
    · have hne : (d != c) = true := bne_iff_ne.mpr hd
      simp only [List.cons_append, List.dropWhile_cons, List.takeWhile_cons, hne, if_true, List.cons.injEq,
        true_and]
      exact ih

/-! ## Escapes -/

theorem braced_carries (n : Nat) : CarriesUpTo (braced f) n := by
  induction n with
  | zero =>
    intro m _ s s' cs r _ h
    rw [braced] at h
    cases h
  | succ n ih =>
    refine forall_ge_succ fun m hm => ?_
    intro s s' cs r hs h
    have hskip := hs.skip f
    rw [braced] at h ⊢
    cases hs' : skip f s with
    | nil => simp [hs'] at h
    | cons c rest =>
      rw [hs'] at hskip h
      obtain ⟨rest', hrest', hrest⟩ := hskip.of_cons
      rw [hrest']
      dsimp only at h ⊢
      split at h
      · rename_i hclose
        rw [if_pos hclose]
        exact carries_some [] hrest h
      · rename_i hclose
        rw [if_neg hclose]
        exact (ih m hm).bind (fun cs => carries_some (c :: cs)) hrest h

theorem following_carries (n : Nat) : Carries (following f n) := by
  induction n with
  | zero => exact carries_some []
  | succ n ih =>
    intro s s' cs r hs h
    have hskip := hs.skip f
    rw [following] at h ⊢
    cases hs' : skip f s with
    | nil => simp [hs'] at h
    | cons c rest =>
      rw [hs'] at hskip h
      obtain ⟨rest', hrest', hrest⟩ := hskip.of_cons
      rw [hrest']
      exact ih.bind (fun cs => carries_some (c :: cs)) hrest h

theorem hexEscape?_carries (count : Nat) : Carries (hexEscape? f count) := by
  intro s s' a r hs h
  have hskip := hs.skip f
  unfold hexEscape? at h ⊢
  split at h
  · rename_i rest hbrace
    rw [hbrace] at hskip
    obtain ⟨rest', hrest', hrest⟩ := hskip.of_cons
    rw [hrest']
    have hbraced := braced_carries f _ _ (Nat.succ_le_succ hrest.length_le)
    exact hbraced.bind (fun digits => .given fun c => carries_skip f _) hrest h
  · rename_i hbrace
    split
    · rename_i rest' hbrace'
      exact absurd hbrace' (hskip.ne_cons (by decide) (fun rest heq => hbrace rest heq) rest')
    · exact (following_carries f count).bind (fun digits => .given fun c => carries_skip f _) hskip h

theorem propertyEscape?_carries (negated : Bool) : Carries (propertyEscape? f negated) := by
  intro s s' a r hs h
  have hskip := hs.skip f
  unfold propertyEscape? at h ⊢
  cases hs' : skip f s with
  | nil => simp [hs'] at h
  | cons c rest =>
    rw [hs'] at hskip h
    obtain ⟨rest', hrest', hrest⟩ := hskip.of_cons
    rw [hrest']
    dsimp only at h ⊢
    split at h
    · rename_i hopen
      rw [if_pos hopen]
      have hbraced := braced_carries f _ _ (Nat.succ_le_succ hrest.length_le)
      refine hbraced.bind (fun name => ?_) hrest h
      exact .given (x := namedSet? f negated name) fun set => carries_some (Atom.set set)
    · rename_i hopen
      rw [if_neg hopen]
      split at h
      · cases h
      · rename_i hletter
        rw [if_neg hletter]
        exact CarriedBy.given (fun set => .given fun set => carries_skip f (Atom.set set)) hrest h

theorem namedBoundary?_carries : Carries (namedBoundary? f) := by
  intro s s' a r hs h
  unfold namedBoundary? at h ⊢
  cases hsigns : signs f isBoundaryLetter s with
  | mk name rest =>
    obtain ⟨rest', hsigns', hrest⟩ := signs_carries f (by decide) hs hsigns
    rw [hsigns] at h
    rw [hsigns']
    split at h
    · rename_i heq
      cases heq
      obtain ⟨behind, rfl, hbehind⟩ := hrest.of_cons
      exact CarriedBy.given (fun look => carries_some (Atom.look look)) hbehind h
    · cases h

theorem boundary?_carries : Carries (boundary? f) := by
  intro s s' a r hs h
  unfold boundary? at h ⊢
  split at h
  · rename_i rest
    obtain ⟨rest', rfl, hrest⟩ := hs.of_cons
    have hskip := hrest.skip f
    cases hletters : skip f rest with
    | nil => simp [hletters] at h
    | cons c cs =>
      rw [hletters] at hskip h
      obtain ⟨cs', hletters', hcs⟩ := hskip.of_cons
      simp only [hletters'] at h ⊢
      split at h
      · rename_i hletter
        rw [if_pos hletter]
        exact namedBoundary?_carries f (hcs.cons c) h
      · rename_i hletter
        rw [if_neg hletter]
        exact carries_some _ hs h
  · rename_i hbrace
    split
    · exact absurd rfl (hs.ne_cons (by decide) (fun rest heq => hbrace rest heq) _)
    · exact carries_some _ hs h

theorem escape?_carries : Carries (escape? f) := by
  intro s s' a r hs h
  unfold escape? at h ⊢
  split at h
  · cases h
  · rename_i c rest
    obtain ⟨rest', rfl, hrest⟩ := hs.of_cons
    dsimp only
    split at h
    · exact hexEscape?_carries f 2 hrest h
    · exact hexEscape?_carries f 4 hrest h
    · exact hexEscape?_carries f 8 hrest h
    · exact propertyEscape?_carries f false hrest h
    · exact propertyEscape?_carries f true hrest h
    case h_6 | h_7 | h_8 | h_9 | h_10 | h_11 =>
      exact CarriedBy.given (fun set => carries_some (Atom.set set)) hrest h
    case h_14 => exact boundary?_carries f hrest h
    case h_18 =>
      split at h
      · rename_i hescapable
        rw [if_pos hescapable]
        exact carries_some _ hrest h
      · rename_i hescapable
        rw [if_neg hescapable]
        exact CarriedBy.given (fun c => carries_some (Atom.literal c false)) hrest h
    all_goals exact carries_some _ hrest h

/-! ## Classes -/

theorem classEnd?_append (s : List Char) : classEnd? (s ++ ending) = (classEnd? s).map (· ++ ending) := by
  unfold classEnd?
  split
  · rename_i rest heq
    match s, heq with
    | [], heq => cases heq
    | [_], heq => cases heq
    | c :: d :: s, heq =>
      cases heq
      rfl
  · rename_i hne
    split
    · exact absurd rfl (hne _)
    · rfl

theorem namedClass?_append (negated : Bool) (s : List Char) :
    namedClass? f negated (s ++ ending) = (namedClass? f negated s).map fun p => (p.1, p.2 ++ ending) := by
  unfold namedClass?
  rcases until_append (c := ':') (by decide) (by decide) s with ⟨hnone', hnone⟩ | ⟨htake, hdrop⟩
  · rw [hnone', hnone]
    rfl
  · rw [htake, hdrop, classEnd?_append]
    cases classEnd? (s.dropWhile (· != ':')) with
    | none => rfl
    | some rest =>
      cases CharSet.named.lookup (String.ofList (s.takeWhile (· != ':'))) with
      | none => rfl
      | some set => cases h : finished? f negated set <;> simp [h]

theorem asciiClass?_append (s : List Char) :
    asciiClass? f (s ++ ending) = (asciiClass? f s).map fun p => (p.1, p.2 ++ ending) := by
  cases s with
  | nil => rfl
  | cons c s =>
    by_cases hc : c = ':'
    · subst hc
      cases s with
      | nil => rfl
      | cons d s =>
        by_cases hd : d = '^'
        · subst hd
          exact namedClass?_append f true s
        · have hplain (l : List Char) : asciiClass? f (':' :: d :: l) = namedClass? f false (d :: l) := by
            simp [asciiClass?, hd]
          rw [List.cons_append, List.cons_append, hplain, hplain]
          exact namedClass?_append f false (d :: s)
    · have hnone (l : List Char) : asciiClass? f (c :: l) = none := by
        simp [asciiClass?, hc]
      rw [List.cons_append, hnone, hnone]
      rfl

theorem asciiClass?_carries : Carries (asciiClass? f) := by
  intro s s' a r hs h
  rcases hs with rfl | rfl
  · exact ⟨r ++ ending, by rw [asciiClass?_append, h]; rfl, .inl rfl⟩
  · exact ⟨r, h, .inr rfl⟩

theorem isAsciiClass_eq {s s' : List Char} (hs : WithEnding s s') : isAsciiClass s' = isAsciiClass s := by
  rcases hs with rfl | rfl
  · rw [isAsciiClass, asciiClass?_append, Option.isSome_map]
    rfl
  · rfl

theorem classAtom?_carries : Carries (classAtom? f) := by
  intro s s' a r hs h
  cases s with
  | nil => cases h
  | cons c rest =>
    obtain ⟨rest', rfl, hrest⟩ := hs.of_cons
    by_cases hc : c = '\\'
    · subst hc
      exact escape?_carries f hrest h
    · simp only [classAtom?] at h ⊢
      cases h
      exact ⟨rest', rfl, hrest⟩

theorem classItem?_carries : Carries (classItem? f) := by
  refine (classAtom?_carries f).bind fun first => ?_
  intro rest rest' a r hrest h
  have hskip := hrest.skip f
  dsimp only at h ⊢
  cases hs' : skip f rest with
  | nil => simp [hs'] at h
  | cons c more =>
    rw [hs'] at hskip h
    obtain ⟨more', hmore', hmore⟩ := hskip.of_cons
    have hbehind := hmore.skip f
    rw [hmore']
    dsimp only at h
    simp only [hbehind.head?_eq (show ']' ≠ ')' by decide), hbehind.head?_eq (show '-' ≠ ')' by decide)]
    split at h
    · rename_i halone
      rw [if_pos halone]
      exact CarriedBy.given (fun set => carries_some set) (hmore.cons c) h
    · rename_i hrange
      rw [if_neg hrange]
      exact (classAtom?_carries f).bind (fun second => .given (x := between? f first second) carries_some) hbehind h

theorem negation_carries {s s' r : List Char} {negated : Bool} (hs : WithEnding s s')
    (h : negation f s = (negated, r)) : ∃ r', negation f s' = (negated, r') ∧ WithEnding r r' := by
  have hskip := hs.skip f
  unfold negation at h ⊢
  split at h
  · rename_i rest hsign
    cases h
    rw [hsign] at hskip
    obtain ⟨rest', hsign', hrest⟩ := hskip.of_cons
    exact ⟨skip f rest', by rw [hsign']; rfl, hrest.skip f⟩
  · rename_i hsign
    cases h
    refine ⟨skip f s', ?_, hskip⟩
    split
    · rename_i hsign'
      exact absurd hsign' (hskip.ne_cons (by decide) (fun rest heq => hsign rest heq) _)
    · rfl

theorem leadingItems_carries {s s' r : List Char} {items : List (Part CharSet)} (hs : WithEnding s s')
    (h : leadingItems f s = (items, r)) : ∃ r', leadingItems f s' = (items, r') ∧ WithEnding r r' := by
  unfold leadingItems at h ⊢
  cases hsigns : signs f (· == '-') s with
  | mk hyphens rest =>
    obtain ⟨rest', hsigns', hrest⟩ := signs_carries f (by decide) hs hsigns
    rw [hsigns] at h
    rw [hsigns']
    split at h
    · rename_i after heq
      cases heq
      cases h
      obtain ⟨after', rfl, hafter⟩ := hrest.of_cons
      exact ⟨skip f after', rfl, hafter.skip f⟩
    · rename_i hbracket heq
      cases heq
      cases h
      refine ⟨rest', ?_, hrest⟩
      split
      · rename_i heq
        cases heq
        exact absurd rfl (hrest.ne_cons (by decide) (fun after heq => hbracket after rfl heq) _)
      · rename_i heq
        cases heq
        rfl

theorem setOperator?_carries : Carries setOperator? := by
  intro s s' a r hs h
  unfold setOperator? at h
  split at h
  all_goals cases h
  all_goals
    obtain ⟨tail, rfl, htail⟩ := hs.of_cons
    obtain ⟨rest', rfl, hrest⟩ := htail.of_cons
    exact ⟨rest', rfl, hrest⟩

theorem setOperator?_eq_none {s s' : List Char} (hs : WithEnding s s') (h : setOperator? s = none) :
    setOperator? s' = none := by
  cases s with
  | nil => rcases hs.of_nil with rfl | rfl <;> rfl
  | cons c s =>
    obtain ⟨tail, rfl, htail⟩ := hs.of_cons
    cases s with
    | nil =>
      unfold setOperator?
      rcases htail.of_nil with rfl | rfl
      all_goals
        split
        case h_4 => rfl
        all_goals
          rename_i heq
          cases heq
    | cons d s =>
      obtain ⟨rest, rfl, hrest⟩ := htail.of_cons
      unfold setOperator?
      split
      case h_4 => rfl
      all_goals
        rename_i heq
        cases heq
        cases h

/-! One step of the two readers of classes, given that both carry with the smaller bounds -/

section
variable {n m : Nat} (hrest : ∀ left items, CarriedBy (classRest f n left items) (classRest f m left items))
include hrest

theorem bracketed_carries : CarriedBy (bracketed f (n + 1)) (bracketed f (m + 1)) := by
  intro s s' a r hs h
  rw [bracketed] at h ⊢
  rcases hnegation : negation f s with ⟨negated, rest⟩
  rcases hleading : leadingItems f rest with ⟨items, after⟩
  obtain ⟨rest', hnegation', hs⟩ := negation_carries f hs hnegation
  obtain ⟨after', hleading', hs⟩ := leadingItems_carries f hs hleading
  simp only [hnegation, hleading] at h
  simp only [hnegation', hleading']
  refine (hrest none items).bind (fun inner => ?_) hs h
  exact .given (x := finished? f negated inner.value) fun set =>
    carries_some (Part.mk set (inner.height + 1) true)

theorem classRest_carries (hbracketed : CarriedBy (bracketed f n) (bracketed f m))
    (left : Option (SetOperator × Part CharSet)) (items : List (Part CharSet)) :
    CarriedBy (classRest f (n + 1) left items) (classRest f (m + 1) left items) := by
  intro s s' a r hs h
  have hskip := hs.skip f
  rw [classRest] at h ⊢
  cases hs' : skip f s with
  | nil => simp [hs'] at h
  | cons c rest =>
    rw [hs'] at hskip h
    obtain ⟨rest', hrest', hs⟩ := hskip.of_cons
    rw [hrest']
    dsimp only at h ⊢
    split at h
    · rename_i hclose
      rw [if_pos hclose]
      exact carries_some _ hs h
    rename_i hclose
    rw [if_neg hclose]
    split at h
    · rename_i hopen
      rw [if_pos hopen, isAsciiClass_eq hs]
      split at h
      · rename_i hnamed
        rw [if_pos hnamed]
        exact (asciiClass?_carries f).bind (fun set => hrest left (⟨set, 0, true⟩ :: items)) hs h
      · rename_i hnamed
        rw [if_neg hnamed]
        exact hbracketed.bind (fun inner => hrest left (inner :: items)) hs h
    · rename_i hopen
      rw [if_neg hopen]
      cases hoperator : setOperator? (c :: rest) with
      | some found =>
        obtain ⟨op, after⟩ := found
        obtain ⟨after', hoperator', hafter⟩ := setOperator?_carries (hs.cons c) hoperator
        rw [hoperator] at h
        rw [hoperator']
        exact hrest _ _ hafter h
      | none =>
        rw [hoperator] at h
        rw [setOperator?_eq_none (hs.cons c) hoperator]
        exact (classItem?_carries f).bind (fun item => hrest left (⟨item, 0, true⟩ :: items)) (hs.cons c) h

end

theorem class_carries (n : Nat) : CarriesUpTo (bracketed f) n ∧
    ∀ left items, CarriesUpTo (classRest f · left items) n := by
  induction n with
  | zero =>
    constructor
    · intro m _ s s' a r _ h
      rw [bracketed] at h
      cases h
    · intro left items m _ s s' a r _ h
      exact absurd h (by simp [classRest])
  | succ n ih =>
    obtain ⟨hbracketed, hrest⟩ := ih
    exact ⟨forall_ge_succ fun m hm => bracketed_carries f fun left items => hrest left items m hm,
      fun left items => forall_ge_succ fun m hm =>
        classRest_carries f (fun left items => hrest left items m hm) (hbracketed m hm) left items⟩

end TemplateEngine.Pattern
