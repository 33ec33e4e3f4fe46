/-
  TemplateEngine.Proofs.Inheritance.Bound — how far compiling goes up, and what it ends with.

  A document's parent is loaded by name, and so is the parent's parent: an `Ascent` lists
  the names that were loaded on the way. The names are the loader's choice and may go
  round in a circle, so nothing but the limit on their number ends the way up.

  Proved, for every loader:
  - `compiles_iff`: the rules of compiling, which know of no bound but that limit, have
    one outcome for each document, that of `compileUpTo`.
  - `compileUpTo_eq_ok_iff`: there is content exactly if a root is within reach.
  - `compileUpTo_eq_error_iff`: there is an error exactly if the way up is blocked, by a
    parent that cannot be loaded or by the limit, and it is the error of that place.
  - `compile_outcome`: the outcome of a document, told apart by the first that happens.
-/

import TemplateEngine.Inheritance
import TemplateEngine.Proofs.Except

namespace TemplateEngine

open TemplateEngine.Except (bind_eq_ok)

/-- The way up from a document to one above it, with the names of the parents loaded. -/
inductive Ascent (env : Environment) : Document → List String → Document → Prop
  | here (document : Document) : Ascent env document [] document
  | up {position : Position} {parent : String} {overrides : List Override}
      {document last : Document} {names : List String} :
      env.loadDocument parent = .ok document → Ascent env document names last →
        Ascent env (.extending position parent overrides) (parent :: names) last

/-- No parent can be loaded here, when `n` of them are left to load. -/
inductive Blocked (env : Environment) : Nat → Document → CompileError → Prop
  | byLimit (position : Position) (parent : String) (overrides : List Override) :
      Blocked env 0 (.extending position parent overrides)
        (.recursiveInheritance parent env.config.maxInheritanceDepth)
  | byParent {n : Nat} {position : Position} {parent : String} {overrides : List Override}
      {cause : CompileError} : env.loadDocument parent = .error cause →
        Blocked env (n + 1) (.extending position parent overrides) cause

/-- Compiling by its rules, when `depth` parents have been loaded. -/
inductive Compiles (env : Environment) : Nat → Document → Except CompileError Content → Prop
  | root (depth : Nat) (content : Content) : Compiles env depth (.root content) (.ok content)
  | tooDeep {depth : Nat} {position : Position} {parent : String} {overrides : List Override} :
      env.config.maxInheritanceDepth ≤ depth → Compiles env depth (.extending position parent overrides)
        (.error (.recursiveInheritance parent env.config.maxInheritanceDepth))
  | unreadable {depth : Nat} {position : Position} {parent : String} {overrides : List Override}
      {cause : CompileError} : depth < env.config.maxInheritanceDepth →
        env.loadDocument parent = .error cause →
          Compiles env depth (.extending position parent overrides) (.error cause)
  | inherit {depth : Nat} {position : Position} {parent : String} {overrides : List Override}
      {document : Document} {outcome : Except CompileError Content} :
      depth < env.config.maxInheritanceDepth → env.loadDocument parent = .ok document →
        Compiles env (depth + 1) document outcome →
          Compiles env depth (.extending position parent overrides)
            (outcome.map (Content.override · overrides))

namespace Environment

variable (env : Environment)

/-! ## One step up -/

theorem compileUpTo_root (n : Nat) (content : Content) : env.compileUpTo n (.root content) = .ok content := by
  cases n <;> rfl

theorem compileUpTo_of_unreadable {parent : String} {cause : CompileError}
    (h : env.loadDocument parent = .error cause) (n : Nat) (position : Position)
    (overrides : List Override) :
    env.compileUpTo (n + 1) (.extending position parent overrides) = .error cause := by
  rw [compileUpTo, h]
  rfl

theorem compileUpTo_of_loaded {parent : String} {document : Document}
    (h : env.loadDocument parent = .ok document) (n : Nat) (position : Position)
    (overrides : List Override) :
    env.compileUpTo (n + 1) (.extending position parent overrides) =
      (env.compileUpTo n document).map (Content.override · overrides) := by
  rw [compileUpTo, h, Except.ok_bind]
  cases env.compileUpTo n document <;> rfl

/-- Every document has an outcome by the rules, and only the one that is computed. -/
theorem compiles_iff (depth : Nat) (document : Document) (outcome : Except CompileError Content) :
    Compiles env depth document outcome ↔
      outcome = env.compileUpTo (env.config.maxInheritanceDepth - depth) document := by
  constructor
  · intro h
    induction h with
    | root depth content => exact (env.compileUpTo_root _ content).symm
    | tooDeep hdeep => rw [Nat.sub_eq_zero_of_le hdeep, compileUpTo]
    | unreadable hdepth hload =>
      obtain ⟨k, hk⟩ := Nat.exists_eq_succ_of_ne_zero (Nat.sub_ne_zero_of_lt hdepth)
      rw [hk, env.compileUpTo_of_unreadable hload]
    | @inherit depth _ _ _ _ _ hdepth hload _ ih =>
      have hk : env.config.maxInheritanceDepth - depth =
          env.config.maxInheritanceDepth - (depth + 1) + 1 := by omega
      rw [hk, env.compileUpTo_of_loaded hload, ih]
  · rintro rfl
    generalize hn : env.config.maxInheritanceDepth - depth = n
    induction n generalizing depth document with
    | zero =>
      cases document with
      | root content => exact .root depth content
      | extending position parent overrides => exact .tooDeep (Nat.le_of_sub_eq_zero hn)
    | succ n ih =>
      cases document with
      | root content => exact .root depth content
      | extending position parent overrides =>
        have hdepth : depth < env.config.maxInheritanceDepth := by omega
        cases hload : env.loadDocument parent with
        | error cause =>
          rw [env.compileUpTo_of_unreadable hload]
          exact .unreadable hdepth hload
        | ok document =>
          rw [env.compileUpTo_of_loaded hload]
          exact .inherit hdepth hload (ih (depth + 1) document (by omega))

/-! ## The whole way up -/

/-- A document below has the outcome of the one above it, with what is put into its content on
    the way down. -/
theorem compileUpTo_of_ascent {document last : Document} {names : List String}
    (hup : Ascent env document names last) {n : Nat} (hlength : names.length ≤ n) :
    ∃ lower : Content → Content,
      env.compileUpTo n document = (env.compileUpTo (n - names.length) last).map lower := by
  induction hup generalizing n with
  | here document => exact ⟨id, by rw [List.length_nil, Nat.sub_zero, Except.map_id, id]⟩
  | @up _ _ overrides _ _ _ hload _ ih =>
    obtain ⟨n, rfl⟩ := Nat.exists_eq_add_of_le' (Nat.le_trans (Nat.succ_pos _) hlength)
    obtain ⟨lower, hlower⟩ := ih (Nat.le_of_succ_le_succ hlength)
    refine ⟨(Content.override · overrides) ∘ lower, ?_⟩
    rw [env.compileUpTo_of_loaded hload, hlower, List.length_cons, Nat.add_sub_add_right]
    cases env.compileUpTo _ _ <;> rfl

theorem compileUpTo_of_blocked {n : Nat} {last : Document} {cause : CompileError}
    (h : Blocked env n last cause) : env.compileUpTo n last = .error cause := by
  cases h with
  | byLimit => rfl
  | byParent hload => exact env.compileUpTo_of_unreadable hload _ _ _

/-- Every way up ends: at a root, or where no parent can be loaded. -/
theorem exists_ascent (n : Nat) (document : Document) :
    ∃ names last, names.length ≤ n ∧ Ascent env document names last ∧
      ((∃ root, last = .root root) ∨ ∃ cause, Blocked env (n - names.length) last cause) := by
  induction n generalizing document with
  | zero =>
    cases document with
    | root content => exact ⟨[], _, Nat.le_refl 0, .here _, .inl ⟨content, rfl⟩⟩
    | extending position parent overrides =>
      exact ⟨[], _, Nat.le_refl 0, .here _, .inr ⟨_, .byLimit position parent overrides⟩⟩
  | succ n ih =>
    cases document with
    | root content => exact ⟨[], _, Nat.zero_le _, .here _, .inl ⟨content, rfl⟩⟩
    | extending position parent overrides =>
      cases hload : env.loadDocument parent with
      | error cause => exact ⟨[], _, Nat.zero_le _, .here _, .inr ⟨cause, .byParent hload⟩⟩
      | ok above =>
        obtain ⟨names, last, hlength, hup, hend⟩ := ih above
        exact ⟨parent :: names, last, Nat.succ_le_succ hlength, .up hload hup, by
          rwa [List.length_cons, Nat.add_sub_add_right]⟩

theorem compileUpTo_eq_ok_iff (n : Nat) (document : Document) :
    (∃ content, env.compileUpTo n document = .ok content) ↔
      ∃ names content, names.length ≤ n ∧ Ascent env document names (.root content) := by
  constructor
  · rintro ⟨content, h⟩
    obtain ⟨names, last, hlength, hup, ⟨root, rfl⟩ | ⟨cause, hblocked⟩⟩ := env.exists_ascent n document
    · exact ⟨names, root, hlength, hup⟩
    · obtain ⟨lower, hlower⟩ := env.compileUpTo_of_ascent hup hlength
      rw [h, env.compileUpTo_of_blocked hblocked] at hlower
      cases hlower
  · rintro ⟨names, root, hlength, hup⟩
    obtain ⟨lower, hlower⟩ := env.compileUpTo_of_ascent hup hlength
    exact ⟨lower root, by rw [hlower, compileUpTo_root]; rfl⟩

theorem compileUpTo_eq_error_iff (n : Nat) (document : Document) (cause : CompileError) :
    env.compileUpTo n document = .error cause ↔
      ∃ names last, names.length ≤ n ∧ Ascent env document names last ∧
        Blocked env (n - names.length) last cause := by
  constructor
  · intro h
    obtain ⟨names, last, hlength, hup, hend⟩ := env.exists_ascent n document
    obtain ⟨lower, hlower⟩ := env.compileUpTo_of_ascent hup hlength
    rcases hend with ⟨root, rfl⟩ | ⟨cause', hblocked⟩
    · rw [h, compileUpTo_root] at hlower
      cases hlower
    · rw [h, env.compileUpTo_of_blocked hblocked] at hlower
      cases hlower
      exact ⟨names, last, hlength, hup, hblocked⟩
  · rintro ⟨names, last, hlength, hup, hblocked⟩
    obtain ⟨lower, hlower⟩ := env.compileUpTo_of_ascent hup hlength
    rw [hlower, env.compileUpTo_of_blocked hblocked]
    rfl

/-! ## Why a parent cannot be loaded -/

theorem loadDocument_eq_load_iff {name name' : String} {cause : LoadError} :
    env.loadDocument name = .error (.load name' cause) ↔ name' = name ∧ env.load name = .error cause := by
  unfold loadDocument
  cases hload : env.load name with
  | error cause' =>
    show Except.error _ = _ ↔ _
    simp [eq_comm]
  | ok source =>
    show Except.mapError _ _ = _ ↔ _
    cases Document.parse source with
    | error cause' =>
      show Except.error (CompileError.parse name cause') = _ ↔ _
      simp
    | ok document =>
      show Except.ok document = _ ↔ _
      simp

theorem loadDocument_eq_parse_iff {name name' : String} {cause : ParseError} :
    env.loadDocument name = .error (.parse name' cause) ↔
      name' = name ∧ ∃ source, env.load name = .ok source ∧ Document.parse source = .error cause := by
  unfold loadDocument
  cases hload : env.load name with
  | error cause' =>
    show Except.error _ = _ ↔ _
    simp
  | ok source =>
    show Except.mapError _ _ = _ ↔ _
    cases hparse : Document.parse source with
    | error cause' =>
      show Except.error (CompileError.parse name cause') = _ ↔ _
      simp [hparse, eq_comm]
    | ok document =>
      show Except.ok document = _ ↔ _
      simp [hparse]

theorem loadDocument_ne_recursiveInheritance (name name' : String) (depth : Nat) :
    env.loadDocument name ≠ .error (.recursiveInheritance name' depth) := by
  unfold loadDocument
  cases hload : env.load name with
  | error cause => exact nofun
  | ok source =>
    show Except.mapError _ _ ≠ _
    cases Document.parse source <;> exact nofun

/-! ## The outcome of compiling -/

theorem compile_eq_error_iff {cause : CompileError}
    (hcause : ∀ name depth, cause ≠ .recursiveInheritance name depth) (document : Document) :
    env.compile document = .error cause ↔
      ∃ names position parent overrides, names.length < env.config.maxInheritanceDepth ∧
        Ascent env document names (.extending position parent overrides) ∧
        env.loadDocument parent = .error cause := by
  rw [compile, compileUpTo_eq_error_iff]
  constructor
  · rintro ⟨names, last, hlength, hup, hblocked⟩
    generalize hn : env.config.maxInheritanceDepth - names.length = n at hblocked
    cases hblocked with
    | byLimit => exact absurd rfl (hcause _ _)
    | byParent hload => exact ⟨names, _, _, _, by omega, hup, hload⟩
  · rintro ⟨names, position, parent, overrides, hlength, hup, hload⟩
    obtain ⟨n, hn⟩ := Nat.exists_eq_succ_of_ne_zero (Nat.sub_ne_zero_of_lt hlength)
    exact ⟨names, _, Nat.le_of_lt hlength, hup, hn ▸ .byParent hload⟩

theorem compile_eq_recursiveInheritance_iff (document : Document) (name : String) (depth : Nat) :
    env.compile document = .error (.recursiveInheritance name depth) ↔
      depth = env.config.maxInheritanceDepth ∧ ∃ names position overrides,
        names.length = env.config.maxInheritanceDepth ∧
        Ascent env document names (.extending position name overrides) := by
  rw [compile, compileUpTo_eq_error_iff]
  constructor
  · rintro ⟨names, last, hlength, hup, hblocked⟩
    generalize hn : env.config.maxInheritanceDepth - names.length = n at hblocked
    cases hblocked with
    | byLimit position parent overrides => exact ⟨rfl, names, position, overrides, by omega, hup⟩
    | byParent hload => exact absurd hload (env.loadDocument_ne_recursiveInheritance _ _ _)
  · rintro ⟨rfl, names, position, overrides, hlength, hup⟩
    refine ⟨names, _, Nat.le_of_eq hlength, hup, ?_⟩
    rw [hlength, Nat.sub_self]
    exact .byLimit position name overrides

end Environment

/-- Compiling ends by its rules alone. It ends with content exactly if a root is reached
    by at most as many parents as the limit allows; with an error of loading or parsing
    exactly if that is what happens first, to a parent the limit still allows; and with
    the error of the limit exactly if as many parents as it allows were loaded and the
    last of them names one more. -/
theorem compile_outcome (env : Environment) (document : Document) :
    let limit := env.config.maxInheritanceDepth
    (∀ outcome, Compiles env 0 document outcome ↔ outcome = env.compile document) ∧
    ((∃ content, env.compile document = .ok content) ↔
      ∃ names content, names.length ≤ limit ∧ Ascent env document names (.root content)) ∧
    (∀ name cause, env.compile document = .error (.load name cause) ↔
      ∃ names position overrides, names.length < limit ∧
        Ascent env document names (.extending position name overrides) ∧
        env.load name = .error cause) ∧
    (∀ name cause, env.compile document = .error (.parse name cause) ↔
      ∃ names position overrides source, names.length < limit ∧
        Ascent env document names (.extending position name overrides) ∧
        env.load name = .ok source ∧ Document.parse source = .error cause) ∧
    ∀ name depth, env.compile document = .error (.recursiveInheritance name depth) ↔
      depth = limit ∧ ∃ names position overrides, names.length = limit ∧
        Ascent env document names (.extending position name overrides) := by
  intro limit
  refine ⟨env.compiles_iff 0 document, env.compileUpTo_eq_ok_iff limit document, fun name cause => ?_,
    fun name cause => ?_, env.compile_eq_recursiveInheritance_iff document⟩
  · rw [env.compile_eq_error_iff fun _ _ h => CompileError.noConfusion h]
    constructor
    · rintro ⟨names, position, parent, overrides, hlength, hup, hload⟩
      obtain ⟨rfl, hcause⟩ := env.loadDocument_eq_load_iff.mp hload
      exact ⟨names, position, overrides, hlength, hup, hcause⟩
    · rintro ⟨names, position, overrides, hlength, hup, hcause⟩
      exact ⟨names, position, name, overrides, hlength, hup, env.loadDocument_eq_load_iff.mpr ⟨rfl, hcause⟩⟩
  · rw [env.compile_eq_error_iff fun _ _ h => CompileError.noConfusion h]
    constructor
    · rintro ⟨names, position, parent, overrides, hlength, hup, hload⟩
      obtain ⟨rfl, source, hsource, hparse⟩ := env.loadDocument_eq_parse_iff.mp hload
      exact ⟨names, position, overrides, source, hlength, hup, hsource, hparse⟩
    · rintro ⟨names, position, overrides, source, hlength, hup, hsource, hparse⟩
      exact ⟨names, position, name, overrides, hlength, hup,
        env.loadDocument_eq_parse_iff.mpr ⟨rfl, source, hsource, hparse⟩⟩

end TemplateEngine
