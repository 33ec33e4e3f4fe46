/-
  TemplateEngine.Proofs.Path.Below — which named templates lie below the root directory.

  A name that is found is relative and has no `..`, so joined to the root it adds names of
  directories and files and nothing else. Two kinds of names do not stay there. A name that
  has no file name, such as the empty one, leaves the root's own name at the end of the
  joined path, and the default extension goes to that. And behind an empty root a dot at the
  start of the name is a component of its own.

  Proved:
  - `components_of_resolve?`: the components of a path whose extension is the name's.
  - `components_of_no_fileName`: those of a path whose extension is the root's.
  - `resolve?_below_iff`: exactly when the path lies below the root.
-/

import TemplateEngine.Proofs.Path.Components

namespace TemplateEngine.Path

/-- Behind the components of the directory the path has names only. -/
def Below (directory path : List Char) : Prop :=
  ∃ names : List (List Char), components path = components directory ++ names.map .normal

/-! ## Names that are found -/

theorem entry_cases {path : List Char} {c : Component} (h : c ∈ entries path) :
    c = .parent ∨ ∃ name, c = .normal name := by
  obtain ⟨part, -, hpart⟩ := List.mem_filterMap.mp h
  unfold named? at hpart
  split at hpart
  · cases hpart
  split at hpart
  · exact .inl (Option.some.inj hpart).symm
  · exact .inr ⟨part, (Option.some.inj hpart).symm⟩

theorem exists_names {cs : List Component} (h : ∀ c ∈ cs, ∃ name, c = .normal name) :
    ∃ names : List (List Char), cs = names.map .normal := by
  induction cs with
  | nil => exact ⟨[], rfl⟩
  | cons c cs ih =>
    obtain ⟨name, rfl⟩ := h c (List.mem_cons_self ..)
    obtain ⟨names, rfl⟩ := ih fun c hc => h c (List.mem_cons_of_mem _ hc)
    exact ⟨name :: names, rfl⟩

section StaysBelow

variable {name : List Char} (h : staysBelow name = true)
include h

theorem exists_entries : ∃ names : List (List Char), entries name = names.map .normal := by
  refine exists_names fun c hc => ?_
  rcases entry_cases hc with rfl | hname
  · have hparent : Component.parent ∈ components name :=
      components_eq name ▸ List.mem_append_right _ hc
    cases List.all_eq_true.mp h _ hparent
  · exact hname

theorem head?_ne_slash : name.head? ≠ some '/' := by
  intro hslash
  have hroot : Component.root ∈ components name := by
    rw [components_eq, lead, if_pos hslash]
    exact List.mem_cons_self ..
  cases List.all_eq_true.mp h _ hroot

/-- A name without a file name says nothing. -/
theorem entries_of_no_fileName (hfile : fileName? name = none) : entries name = [] := by
  obtain ⟨names, hnames⟩ := exists_entries h
  rcases List.eq_nil_or_concat names with rfl | ⟨names, last, rfl⟩
  · exact hnames
  · have hlast : fileName? name = some last := by
      rw [fileName?_eq_some_iff, components_eq, hnames, List.concat_eq_append, List.map_append]
      simp
    rw [hfile] at hlast
    cases hlast

end StaysBelow

/-! ## Joined to the root -/

/-- The lead that a name keeps behind a root: all of it if the root is empty. -/
def leadBehind (root name : List Char) : List Component := if root = [] then lead name else []

theorem components_join_eq (root name : List Char) :
    components (join root name) = components root ++ leadBehind root name ++ entries name := by
  unfold leadBehind
  split
  · rename_i h
    rw [h, join_nil, components_eq name]
    rfl
  · rename_i h
    rw [components_join h, List.append_nil]

theorem fileName?_join {root name last : List Char} (h : fileName? name = some last) :
    fileName? (join root name) = some last := by
  rw [fileName?_eq_some_iff, components_eq] at h
  have hentries : (entries name).getLast? = some (.normal last) := by
    rw [List.getLast?_append] at h
    cases hlast : (entries name).getLast? with
    | none =>
      rw [hlast, Option.none_or] at h
      exact absurd h (getLast?_lead_ne name last)
    | some c => rwa [hlast, Option.some_or] at h
  rw [fileName?_eq_some_iff, components_join_eq, List.getLast?_append, hentries, Option.some_or]

theorem fileName?_join_of_no_entries {root name : List Char} (h : entries name = []) :
    fileName? (join root name) = fileName? root := by
  have hcomponents := components_join_eq root name
  rw [h, List.append_nil] at hcomponents
  unfold leadBehind at hcomponents
  split at hcomponents
  · rename_i hroot
    rw [hroot, join_nil]
    refine Option.eq_none_iff_forall_ne_some.mpr fun last hlast => ?_
    rw [fileName?_eq_some_iff, components_eq, h, List.append_nil] at hlast
    exact getLast?_lead_ne name last hlast
  · rw [List.append_nil] at hcomponents
    rw [fileName?, fileName?, hcomponents]

/-! ## Resolving -/

/-- All that resolving a name can come to: the joined path, or that path with the default
    extension. -/
theorem resolve?_cases {root name path : List Char} {extension : Option (List Char)}
    (h : resolve? root name extension = some path) :
    staysBelow name = true ∧
      (path = join root name ∧ (fileName? name = none → ∀ e ∈ extension, e = []) ∨
        ∃ e, extension = some e ∧ e ≠ [] ∧ path = withExtension (join root name) e) := by
  unfold resolve? at h
  split at h
  · rename_i hstays
    refine ⟨hstays, ?_⟩
    cases extension with
    | none => exact .inl ⟨(Option.some.inj h).symm, nofun⟩
    | some e =>
      simp only at h
      split at h
      · rename_i hplain
        refine .inl ⟨(Option.some.inj h).symm, fun hfile e he => ?_⟩
        obtain rfl := Option.some.inj he
        simpa [hasExtension, hfile] using hplain
      · rename_i hplain
        have he : e ≠ [] := by
          rintro rfl
          simp at hplain
        exact .inr ⟨e, rfl, he, (Option.some.inj h).symm⟩
  · cases h

/-- The name's last entry is the path's last one, with an extension or without. -/
theorem components_of_resolve? {root name path : List Char} {extension : Option (List Char)}
    (hext : ∀ e ∈ extension, '/' ∉ e) (h : resolve? root name extension = some path)
    (hfile : fileName? name = none → ∀ e ∈ extension, e = []) :
    ∃ names : List (List Char),
      components path = components root ++ leadBehind root name ++ names.map .normal := by
  obtain ⟨hstays, ⟨rfl, -⟩ | ⟨e, rfl, he, rfl⟩⟩ := resolve?_cases h
  · obtain ⟨names, hnames⟩ := exists_entries hstays
    exact ⟨names, hnames ▸ components_join_eq root name⟩
  · cases hlast : fileName? name with
    | none => exact absurd (hfile hlast e rfl) he
    | some last =>
      obtain ⟨names, hnames⟩ := exists_entries hstays
      have hne : names ≠ [] := by
        rintro rfl
        rw [fileName?_eq_some_iff, components_eq, hnames, List.map_nil, List.append_nil] at hlast
        exact getLast?_lead_ne name last hlast
      refine ⟨names.dropLast ++ [stem last ++ '.' :: e], ?_⟩
      rw [components_withExtension (fileName?_join hlast) he (hext e rfl), components_join_eq, hnames,
        List.dropLast_append_of_ne_nil (by simpa using hne), List.map_append, List.map_dropLast,
        List.append_assoc]
      rfl

/-- Without a file name of its own a name leaves the extension to the root. -/
theorem components_of_no_fileName {root name path extension : List Char} (hext : '/' ∉ extension)
    (hne : extension ≠ []) (h : resolve? root name (some extension) = some path)
    (hfile : fileName? name = none) :
    match fileName? root with
    | none => components path = components root ++ leadBehind root name
    | some last => components path = (components root).dropLast ++ [.normal (stem last ++ '.' :: extension)] := by
  obtain ⟨hstays, ⟨-, hempty⟩ | ⟨e, he, -, rfl⟩⟩ := resolve?_cases h
  · exact absurd (hempty hfile extension rfl) hne
  · obtain rfl := Option.some.inj he
    have hentries := entries_of_no_fileName hstays hfile
    have hjoin := components_join_eq root name
    rw [hentries, List.append_nil] at hjoin
    have hsame : fileName? (join root name) = fileName? root := fileName?_join_of_no_entries hentries
    split
    · rename_i hroot
      rw [withExtension_of_none (hsame.trans hroot), hjoin]
    · rename_i last hroot
      have hlead : leadBehind root name = [] := by
        rw [leadBehind, if_neg]
        rintro rfl
        cases hroot
      rw [components_withExtension (hsame.trans hroot) hne hext, hjoin, hlead, List.append_nil]

theorem leadBehind_eq_nil_iff {root name : List Char} (h : staysBelow name = true) :
    leadBehind root name = [] ↔ (root = [] → (parts name).head? ≠ some ['.']) := by
  unfold leadBehind
  split
  · rename_i hroot
    rw [lead, if_neg (head?_ne_slash h)]
    simp [hroot]
  · rename_i hroot
    exact ⟨fun _ hempty => absurd hempty hroot, fun _ => rfl⟩

theorem below_iff_of_components {root name path : List Char} {names : List (List Char)}
    (h : components path = components root ++ leadBehind root name ++ names.map .normal) :
    Below root path ↔ leadBehind root name = [] := by
  constructor
  · rintro ⟨names', hnames⟩
    rw [h, List.append_assoc, List.append_cancel_left_eq] at hnames
    refine List.eq_nil_iff_forall_not_mem.mpr fun c hc => ?_
    obtain ⟨other, -, rfl⟩ := List.mem_map.mp (hnames ▸ List.mem_append_left _ hc)
    unfold leadBehind lead at hc
    repeat' split at hc
    all_goals simp at hc
  · intro hlead
    rw [hlead, List.append_nil] at h
    exact ⟨names, h⟩

theorem below_iff_of_replaced {root path last other : List Char} (hroot : fileName? root = some last)
    (h : components path = (components root).dropLast ++ [.normal other]) : Below root path ↔ other = last := by
  obtain ⟨directory, -, -, -, -, hcomponents⟩ := exists_of_fileName? hroot
  rw [hcomponents, List.dropLast_concat] at h
  unfold Below
  rw [hcomponents, h]
  constructor
  · rintro ⟨names, hnames⟩
    rw [List.append_assoc, List.append_cancel_left_eq] at hnames
    exact Component.normal.inj (List.cons.inj hnames).1
  · rintro rfl
    exact ⟨[], (List.append_nil _).symm⟩

/-- A path lies below the root that it was resolved from, but for two kinds of names: those
    that keep a dot behind an empty root, and those without a file name, whose extension
    changes the root's own name. -/
theorem resolve?_below_iff {root name path : List Char} {extension : Option (List Char)}
    (hext : ∀ e ∈ extension, '/' ∉ e) (h : resolve? root name extension = some path) :
    Below root path ↔
      (root = [] → (parts name).head? ≠ some ['.']) ∧
        (fileName? name = none →
          ∀ last ∈ fileName? root, ∀ e ∈ extension, e = [] ∨ stem last ++ '.' :: e = last) := by
  obtain ⟨hstays, -⟩ := resolve?_cases h
  by_cases hown : fileName? name = none → ∀ e ∈ extension, e = []
  · obtain ⟨names, hnames⟩ := components_of_resolve? hext h hown
    rw [below_iff_of_components hnames, leadBehind_eq_nil_iff hstays]
    exact ⟨fun hlead => ⟨hlead, fun hfile last _ e he => .inl (hown hfile e he)⟩, And.left⟩
  simp only [Classical.not_forall] at hown
  obtain ⟨hfile, e, he, hne⟩ := hown
  obtain rfl := Option.mem_def.mp he
  have hpath := components_of_no_fileName (hext e rfl) hne h hfile
  cases hroot : fileName? root with
  | none =>
    rw [hroot] at hpath
    have hpath : components path = components root ++ leadBehind root name ++ [].map .normal :=
      hpath.trans (List.append_nil _).symm
    rw [below_iff_of_components hpath, leadBehind_eq_nil_iff hstays]
    exact ⟨fun hlead => ⟨hlead, nofun⟩, And.left⟩
  | some last =>
    rw [hroot] at hpath
    rw [below_iff_of_replaced hroot hpath]
    constructor
    · intro hsame
      refine ⟨?_, fun _ last' hlast' e' he' => ?_⟩
      · rintro rfl
        cases hroot
      · obtain rfl := Option.some.inj hlast'
        obtain rfl := Option.some.inj he'
        exact .inr hsame
    · rintro ⟨-, hroots⟩
      exact (hroots hfile last rfl e rfl).resolve_left hne

/-- A dotted directory in the name stays one, and the file gets the extension. -/
theorem below_of_dotted_name :
    resolve? "/t.d".toList "./inc.d//menu/.".toList (some "twig".toList) =
        some "/t.d/./inc.d//menu.twig".toList ∧
      Below "/t.d".toList "/t.d/./inc.d//menu.twig".toList := by
  have hpath : resolve? "/t.d".toList "./inc.d//menu/.".toList (some "twig".toList) =
      some "/t.d/./inc.d//menu.twig".toList := by decide
  have hext : ∀ e ∈ some "twig".toList, '/' ∉ e := by decide
  refine ⟨hpath, (resolve?_below_iff hext hpath).mpr ⟨by decide, by decide⟩⟩

/-- The empty name is found beside the root, at the root's name with the extension. -/
theorem not_below_of_empty_name :
    resolve? "/templates".toList [] (some "twig".toList) = some "/templates.twig".toList ∧
      ¬ Below "/templates".toList "/templates.twig".toList := by
  refine ⟨by decide, ?_⟩
  rintro ⟨names, hnames⟩
  have hroot : components "/templates".toList = [.root, .normal "templates".toList] := by decide
  have hpath : components "/templates.twig".toList = [.root, .normal "templates.twig".toList] := by decide
  rw [hroot, hpath] at hnames
  cases hnames

end TemplateEngine.Path
