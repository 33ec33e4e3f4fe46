/-
  TemplateEngine.Proofs.Path.Components — what paths that are put together lead to.

  The components of a path are a lead, which tells whether it starts at the root or at a
  single dot, and the entries its parts name. A slash sets parts apart wherever it stands,
  so the entries of a joined path are those of both sides, and the lead is that of the left
  one. The last entry is what stands behind the last slash, up to parts that say nothing.

  Proved:
  - `components_join`: the components of a joined path.
  - `exists_of_fileName?`: where in a path its file name stands.
  - `components_withExtension`: only the last component gets an extension.
-/

import TemplateEngine.Path

namespace TemplateEngine.Path

/-! ## Parts -/

theorem parts_ne_nil (s : List Char) : parts s ≠ [] := by
  cases s with
  | nil => exact List.cons_ne_nil _ _
  | cons c cs =>
    rw [parts]
    split
    · exact List.cons_ne_nil _ _
    · split <;> exact List.cons_ne_nil _ _

theorem parts_append_slash (a b : List Char) : parts (a ++ '/' :: b) = parts a ++ parts b := by
  induction a with
  | nil => rfl
  | cons c a ih =>
    rw [List.cons_append, parts, parts, ih]
    split
    · rfl
    · cases h : parts a with
      | nil => exact absurd h (parts_ne_nil a)
      | cons p ps => rfl

theorem parts_of_not_mem {s : List Char} (h : '/' ∉ s) : parts s = [s] := by
  induction s with
  | nil => rfl
  | cons c s ih =>
    rw [List.mem_cons, not_or] at h
    rw [parts, if_neg (Ne.symm h.1), ih h.2]

/-! ## Lead and entries -/

/-- The entries that the parts of a path name, one after the other. -/
def entries (path : List Char) : List Component := (parts path).filterMap named?

/-- Where a path starts, if it says so. -/
def lead (path : List Char) : List Component :=
  if path.head? = some '/' then [.root]
  else if (parts path).head? = some ['.'] then [.current] else []

theorem components_eq (path : List Char) : components path = lead path ++ entries path := by
  unfold components
  split
  · rfl
  · rename_i h
    have hhead : path.head? ≠ some '/' := by
      intro hslash
      cases path with
      | nil => cases hslash
      | cons c rest => exact h rest (Option.some.inj hslash ▸ rfl)
    rw [lead, if_neg hhead, entries]

theorem entries_append_slash (a b : List Char) : entries (a ++ '/' :: b) = entries a ++ entries b := by
  rw [entries, parts_append_slash, List.filterMap_append]
  rfl

theorem entries_of_not_mem {s : List Char} (h : '/' ∉ s) : entries s = (named? s).toList := by
  rw [entries, parts_of_not_mem h]
  cases hs : named? s <;> simp [hs]

theorem lead_append_slash {a : List Char} (h : a ≠ []) (b : List Char) : lead (a ++ '/' :: b) = lead a := by
  have hparts : (parts (a ++ '/' :: b)).head? = (parts a).head? := by
    rw [parts_append_slash, List.head?_append]
    cases ha : parts a with
    | nil => exact absurd ha (parts_ne_nil a)
    | cons p ps => rfl
  have hhead : (a ++ '/' :: b).head? = a.head? := by
    obtain ⟨c, a, rfl⟩ := List.exists_cons_of_ne_nil h
    rfl
  rw [lead, lead, hparts, hhead]

theorem lead_of_not_mem {s : List Char} (h : '/' ∉ s) (hdot : s ≠ ['.']) : lead s = [] := by
  have hhead : s.head? ≠ some '/' := fun hs => h (List.mem_of_head? hs)
  rw [lead, if_neg hhead, parts_of_not_mem h, if_neg (by simpa using hdot)]

theorem components_append_slash {a : List Char} (h : a ≠ []) (b : List Char) :
    components (a ++ '/' :: b) = components a ++ entries b := by
  rw [components_eq, components_eq, lead_append_slash h, entries_append_slash, List.append_assoc]

/-- What follows a slash adds its entries to what the path up to the slash leads to. -/
theorem components_behind_slash (a b : List Char) :
    components (a ++ ['/'] ++ b) = components (a ++ ['/']) ++ entries b := by
  rw [List.append_assoc]
  by_cases h : a = []
  · subst h
    rfl
  · have hend := components_append_slash h []
    have hmore := components_append_slash h b
    simp only [List.singleton_append, hend, hmore, List.append_assoc]
    rfl

/-- A path that a name can be put behind: the empty one, or one that ends in a slash. -/
def Open (path : List Char) : Prop := path = [] ∨ ∃ p, path = p ++ ['/']

theorem components_append {directory name : List Char} (h : Open directory) (hname : '/' ∉ name)
    (hdot : name ≠ ['.']) : components (directory ++ name) = components directory ++ (named? name).toList := by
  rw [← entries_of_not_mem hname]
  rcases h with rfl | ⟨p, rfl⟩
  · rw [List.nil_append, components_eq, lead_of_not_mem hname hdot]
    rfl
  · exact components_behind_slash p name

theorem components_join {root : List Char} (h : root ≠ []) (relative : List Char) :
    components (join root relative) = components root ++ entries relative := by
  unfold join
  split
  · rename_i hend
    have hlast : root.getLast? = some '/' := by simpa [h] using hend
    obtain ⟨p, rfl⟩ := List.getLast?_eq_some_iff.mp hlast
    exact components_behind_slash p relative
  · exact components_append_slash h relative

theorem join_nil (relative : List Char) : join [] relative = relative := rfl

/-! ## File names -/

/-- A path without the parts at its end that say nothing. -/
def trimmed (path : List Char) : List Char := (dropSilent path.reverse).reverse

theorem entries_reverse_dropSilent (s : List Char) : entries (dropSilent s).reverse = entries s.reverse := by
  fun_induction dropSilent s with
  | case1 rest ih => rw [ih, List.reverse_cons, entries_append_slash]; simp [entries, parts, named?]
  | case2 rest ih =>
    rw [ih, List.reverse_cons, List.reverse_cons, List.append_assoc]
    show _ = entries (rest.reverse ++ '/' :: ['.'])
    rw [entries_append_slash]
    simp [entries, parts, named?]
  | case3 => rfl

theorem lead_reverse_dropSilent {s : List Char} (h : dropSilent s ≠ []) :
    lead (dropSilent s).reverse = lead s.reverse := by
  have hrest {rest : List Char} (hne : dropSilent rest ≠ []) : rest.reverse ≠ [] := by
    intro hnil
    rw [List.reverse_eq_nil_iff.mp hnil] at hne
    exact hne rfl
  fun_induction dropSilent s with
  | case1 rest ih => rw [ih h, List.reverse_cons, lead_append_slash (hrest h)]
  | case2 rest ih =>
    rw [ih h, List.reverse_cons, List.reverse_cons, List.append_assoc]
    exact (lead_append_slash (hrest h) ['.']).symm
  | case3 => rfl

/-- A path ends neither in a slash nor in a dot of its own once it is trimmed. -/
theorem dropSilent_stops {s rest : List Char} :
    dropSilent s ≠ '/' :: rest ∧ dropSilent s ≠ '.' :: '/' :: rest := by
  fun_induction dropSilent s with
  | case1 _ ih => exact ih
  | case2 _ ih => exact ih
  | case3 s hslash hdot => exact ⟨hslash rest, hdot rest⟩

theorem components_trimmed {path : List Char} (h : trimmed path ≠ []) :
    components (trimmed path) = components path := by
  have hdrop : dropSilent path.reverse ≠ [] := by simpa [trimmed] using h
  rw [components_eq, components_eq, trimmed, lead_reverse_dropSilent hdrop, entries_reverse_dropSilent,
    List.reverse_reverse]

theorem named?_eq_normal {part name : List Char} (h : named? part = some (.normal name)) : part = name := by
  unfold named? at h
  split at h
  · cases h
  split at h
  · cases h
  · exact Component.normal.inj (Option.some.inj h)

theorem getLast?_lead_ne (path name : List Char) : (lead path).getLast? ≠ some (.normal name) := by
  unfold lead
  split
  · nofun
  · split <;> nofun

theorem fileName?_eq_some_iff {path name : List Char} :
    fileName? path = some name ↔ (components path).getLast? = some (.normal name) := by
  unfold fileName?
  split
  · rename_i heq
    rw [heq]
    simp
  · rename_i hne
    simpa using hne name

theorem trimmed_ne_nil {path name : List Char} (h : fileName? path = some name) : trimmed path ≠ [] := by
  intro hnil
  have hentries : entries path = [] := by
    have hsame := entries_reverse_dropSilent path.reverse
    rw [List.reverse_reverse] at hsame
    rw [← hsame]
    show entries (trimmed path) = []
    rw [hnil]
    rfl
  rw [fileName?_eq_some_iff, components_eq, hentries, List.append_nil] at h
  exact getLast?_lead_ne path name h

/-- What stands behind the last slash of a trimmed path says something, unless the path is
    a single dot. -/
theorem exists_of_trimmed {path : List Char} (h : trimmed path ≠ []) :
    ∃ directory last, trimmed path = directory ++ last ∧ Open directory ∧ '/' ∉ last ∧ last ≠ [] ∧
      (last = ['.'] → directory = []) := by
  obtain ⟨r, hr⟩ : ∃ r, dropSilent path.reverse = r := ⟨_, rfl⟩
  have hstops (rest : List Char) : r ≠ '/' :: rest ∧ r ≠ '.' :: '/' :: rest := hr ▸ dropSilent_stops
  have hwhole : trimmed path = r.reverse := congrArg List.reverse hr
  rw [hwhole] at h ⊢
  by_cases hslash : '/' ∈ r
  · obtain ⟨last, before, rfl, hlast⟩ := List.eq_append_cons_of_mem hslash
    refine ⟨before.reverse ++ ['/'], last.reverse, by simp, .inr ⟨_, rfl⟩, by simpa using hlast, ?_, ?_⟩
    · intro hnil
      rw [List.reverse_eq_nil_iff.mp hnil] at hstops
      exact (hstops before).1 rfl
    · intro hdot
      have hdot : last = ['.'] := by simpa using congrArg List.reverse hdot
      rw [hdot] at hstops
      exact absurd rfl (hstops before).2
  · exact ⟨[], r.reverse, rfl, .inl rfl, by simpa using hslash, h, fun _ => rfl⟩

/-- A file name stands behind a path that can be gone on with. -/
theorem exists_of_fileName? {path name : List Char} (h : fileName? path = some name) :
    ∃ directory, trimmed path = directory ++ name ∧ Open directory ∧ '/' ∉ name ∧
      named? name = some (.normal name) ∧ components path = components directory ++ [.normal name] := by
  have hne := trimmed_ne_nil h
  have hcomponents := components_trimmed hne
  obtain ⟨directory, last, hsplit, hopen, hslash, hlast, hdot⟩ := exists_of_trimmed hne
  rw [fileName?_eq_some_iff, ← hcomponents, hsplit] at h
  have hdot : last ≠ ['.'] := by
    intro hd
    rw [hdot hd, hd] at h
    cases h
  rw [components_append hopen hslash hdot] at h
  have hnamed : ∃ c, named? last = some c := by
    rw [named?, if_neg (not_or.mpr ⟨hlast, hdot⟩)]
    split <;> exact ⟨_, rfl⟩
  obtain ⟨c, hc⟩ := hnamed
  rw [hc, Option.toList_some, List.getLast?_append, List.getLast?_singleton] at h
  obtain rfl : c = .normal name := Option.some.inj h
  obtain rfl := named?_eq_normal hc
  refine ⟨directory, hsplit, hopen, hslash, hc, ?_⟩
  rw [← hcomponents, hsplit, components_append hopen hslash hdot, hc]
  rfl

/-! ## Extensions -/

/-- A file name without its extension. -/
def stem (name : List Char) : List Char := ((splitExtension? name).map (·.1)).getD name

theorem stem_ne_nil {name : List Char} (h : name ≠ []) : stem name ≠ [] := by
  unfold stem splitExtension?
  split
  · simp
  · exact h

theorem not_mem_stem {name : List Char} (h : '/' ∉ name) : '/' ∉ stem name := by
  unfold stem splitExtension?
  split
  · rename_i c rest heq
    intro hmem
    have hsuffix : '.' :: c :: rest <:+ name.reverse := heq ▸ List.dropWhile_suffix _
    have hmem : '/' ∈ '.' :: c :: rest := List.mem_cons_of_mem _ (List.mem_reverse.mp hmem)
    exact h (List.mem_reverse.mp (hsuffix.subset hmem))
  · exact h

theorem named?_extended {name extension : List Char} (h : name ≠ []) (hext : extension ≠ []) :
    named? (stem name ++ '.' :: extension) = some (.normal (stem name ++ '.' :: extension)) := by
  have hlen : 2 < (stem name ++ '.' :: extension).length := by
    have := List.length_pos_iff.mpr (stem_ne_nil h)
    have := List.length_pos_iff.mpr hext
    rw [List.length_append, List.length_cons]
    omega
  have hshort {part : List Char} (hpart : part.length ≤ 2) : stem name ++ '.' :: extension ≠ part := by
    intro heq
    rw [heq] at hlen
    omega
  rw [named?, if_neg (not_or.mpr ⟨hshort (by decide), hshort (by decide)⟩), if_neg (hshort (by decide))]

/-- The last component gets the extension in place of its own; the others stay. -/
theorem components_withExtension {path name extension : List Char} (h : fileName? path = some name)
    (hext : extension ≠ []) (hslash : '/' ∉ extension) :
    components (withExtension path extension) =
      (components path).dropLast ++ [.normal (stem name ++ '.' :: extension)] := by
  obtain ⟨directory, hsplit, hopen, hname, hnamed, hcomponents⟩ := exists_of_fileName? h
  have hne : name ≠ [] := by
    rintro rfl
    cases hnamed
  have hpath : withExtension path extension = directory ++ (stem name ++ '.' :: extension) := by
    have htrimmed : (dropSilent path.reverse).reverse = directory ++ name := hsplit
    rw [withExtension, h]
    simp only [htrimmed, List.length_append, Nat.add_sub_cancel, List.take_left, List.append_assoc]
    rfl
  have hfile : '/' ∉ stem name ++ '.' :: extension := by
    simp [not_mem_stem hname, hslash]
  have hextended := named?_extended hne hext
  have hdot : stem name ++ '.' :: extension ≠ ['.'] := by
    intro hd
    rw [hd] at hextended
    cases hextended
  rw [hpath, components_append hopen hfile hdot, hextended, hcomponents, List.dropLast_concat]
  rfl

theorem withExtension_of_none {path : List Char} (h : fileName? path = none) (extension : List Char) :
    withExtension path extension = path := by
  rw [withExtension, h]

end TemplateEngine.Path
