/-
  TemplateEngine.Proofs.Inheritance.Override — overriding blocks, all at once.

  A document with a parent is compiled by replacing one block name after the other in the
  parent's content, so a later override walks through what an earlier one has put in.
  Names being unique in the document, it finds nothing to replace there: the outcome is
  that of one walk of the parent's content, and the order of the overrides is nothing to it.

  Proved:
  - `override_eq_substitute`: overrides with unique names, one after the other, are one walk.
  - `overrideBody_perm`: the walk does not depend on the order of the overrides.
  - `compile_eq_substitute`: what a source with a parent compiles to.
-/

import TemplateEngine.Proofs.Content.Substitution
import TemplateEngine.Proofs.Grammar.BlockNames

namespace TemplateEngine

open Grammar (overrideNames nodup_names_of_parse)

/-- The content that the overrides have for the blocks of a name. -/
def overrideBody (overrides : List Override) (name : String) : Option Content :=
  (overrides.find? (·.name == name)).map (·.content)

theorem overrideBody_cons (o : Override) (rest : List Override) (name : String) :
    overrideBody (o :: rest) name = if name = o.name then some o.content else overrideBody rest name := by
  unfold overrideBody
  by_cases h : name = o.name
  · simp [h]
  · simp [h, Ne.symm h]

theorem overrideBody_eq_none {overrides : List Override} {name : String}
    (h : ∀ o ∈ overrides, o.name ≠ name) : overrideBody overrides name = none := by
  rw [overrideBody, List.find?_eq_none.mpr fun o ho => by simpa using h o ho]
  rfl

/-! ## One after the other, or all at once -/

/-- An override's name is found neither in another override nor inside its own content. -/
theorem overrideBody_absent {o : Override} {rest : List Override}
    (h : ((o :: rest).flatMap overrideNames).Nodup) {name : String} (hn : name ∈ overrideNames o) :
    overrideBody rest name = none := by
  rw [List.flatMap_cons, List.nodup_append] at h
  refine overrideBody_eq_none fun o' ho' he => ?_
  have hm : o'.name ∈ rest.flatMap overrideNames :=
    List.mem_flatMap.mpr ⟨o', ho', List.mem_cons_self ..⟩
  exact h.2.2 name hn o'.name hm he.symm

theorem override_eq_substitute {overrides : List Override} (h : (overrides.flatMap overrideNames).Nodup)
    (content : Content) :
    Content.override content overrides = substituteBlocks (overrideBody overrides) content := by
  induction overrides generalizing content with
  | nil => exact (substituteBlocks_of_absent content fun _ _ => rfl).symm
  | cons o rest ih =>
    have hrest : (rest.flatMap overrideNames).Nodup := by
      rw [List.flatMap_cons, List.nodup_append] at h
      exact h.2.1
    have hbody : substituteBlocks (overrideBody rest) o.content = o.content :=
      substituteBlocks_of_absent _ fun name hn => overrideBody_absent h (List.mem_cons_of_mem _ hn)
    have hboth : andThenBodies (onlyBody o.name o.content) (overrideBody rest) =
        overrideBody (o :: rest) := by
      funext name
      rw [andThenBodies, onlyBody, overrideBody_cons]
      split
      · rename_i he
        rw [overrideBody_absent h (he ▸ List.mem_cons_self ..), Option.none_or, Option.map_some, hbody]
      · rw [Option.map_none, Option.or_none]
    calc Content.override content (o :: rest)
      _ = Content.override (substituteBlocks (onlyBody o.name o.content) content) rest := by
        rw [Content.override, List.foldl_cons, replaceBlocks_fst]; rfl
      _ = substituteBlocks (overrideBody rest) (substituteBlocks (onlyBody o.name o.content) content) :=
        ih hrest _
      _ = substituteBlocks (overrideBody (o :: rest)) content := by
        rw [substituteBlocks_substituteBlocks, hboth]

/-! ## The order of overrides -/

theorem overrideBody_eq_some_iff {overrides : List Override} (h : (overrides.flatMap overrideNames).Nodup)
    {name : String} {body : Content} :
    overrideBody overrides name = some body ↔ ∃ o ∈ overrides, o.name = name ∧ o.content = body := by
  induction overrides with
  | nil => simp [overrideBody]
  | cons o rest ih =>
    have hrest : (rest.flatMap overrideNames).Nodup := by
      rw [List.flatMap_cons, List.nodup_append] at h
      exact h.2.1
    rw [overrideBody_cons]
    split
    · rename_i he
      have hnone : overrideBody rest name = none := overrideBody_absent h (he ▸ List.mem_cons_self ..)
      constructor
      · intro hb
        exact ⟨o, List.mem_cons_self .., he.symm, Option.some.inj hb⟩
      · rintro ⟨o', ho', hname, hbody⟩
        rcases List.mem_cons.mp ho' with rfl | ho'
        · rw [hbody]
        · have := (ih hrest).mpr ⟨o', ho', hname, hbody⟩
          rw [hnone] at this
          cases this
    · rename_i he
      rw [ih hrest]
      constructor
      · rintro ⟨o', ho', hb⟩
        exact ⟨o', List.mem_cons_of_mem _ ho', hb⟩
      · rintro ⟨o', ho', hname, hbody⟩
        rcases List.mem_cons.mp ho' with rfl | ho'
        · exact absurd hname.symm he
        · exact ⟨o', ho', hname, hbody⟩

theorem overrideBody_perm {overrides permuted : List Override} (hp : permuted.Perm overrides)
    (h : (overrides.flatMap overrideNames).Nodup) : overrideBody permuted = overrideBody overrides := by
  have h' : (permuted.flatMap overrideNames).Nodup := (hp.flatMap_right _).nodup_iff.mpr h
  funext name
  refine Option.ext fun body => ?_
  rw [overrideBody_eq_some_iff h, overrideBody_eq_some_iff h']
  simp only [hp.mem_iff]

/-- A source with a parent compiles to the parent's content with every block it overrides
    given the override's content, in one walk; in whatever order the overrides come, they
    give that content. -/
theorem compile_eq_substitute {source parent : String} {position : Position} {overrides : List Override}
    (hparse : Document.parse source = .ok (.extending position parent overrides)) (env : Environment)
    {n : Nat} (hlimit : env.config.maxInheritanceDepth = n + 1) {document : Document} {content : Content}
    (hload : env.loadDocument parent = .ok document)
    (hparent : env.compileUpTo n document = .ok content) :
    env.compile (.extending position parent overrides) =
        .ok (substituteBlocks (overrideBody overrides) content) ∧
      ∀ permuted : List Override, permuted.Perm overrides →
        Content.override content permuted = substituteBlocks (overrideBody overrides) content := by
  have hnames := nodup_names_of_parse hparse
  have hany : ∀ permuted : List Override, permuted.Perm overrides →
      Content.override content permuted = substituteBlocks (overrideBody overrides) content := by
    intro permuted hp
    rw [override_eq_substitute ((hp.flatMap_right _).nodup_iff.mpr hnames), overrideBody_perm hp hnames]
  refine ⟨?_, hany⟩
  rw [← hany overrides (.refl _), Environment.compile, hlimit, Environment.compileUpTo, hload,
    Except.ok_bind, hparent, Except.ok_bind]
  rfl

set_option maxRecDepth 4000 in
/-- A child overrides both of two blocks, of which one stands inside the other. -/
theorem compile_nested_overrides :
    ∃ env : Environment, ∃ overrides : List Override,
      Document.parse "\x7b%extends'p'%\x7d\x7b%block a%\x7dA\x7b%endblock%\x7d\x7b%block b%\x7dB\x7b%endblock%\x7d" =
        .ok (.extending ⟨0, 1, 1⟩ "p" overrides) ∧
      env.load "p" = .ok "\x7b%block b%\x7d\x7b%block a%\x7d\x7b%endblock%\x7d\x7b%endblock%\x7d" ∧
      env.compile (.extending ⟨0, 1, 1⟩ "p" overrides) = .ok [.block ⟨0, 1, 1⟩ "b" [.text "B"]] := by
  let env : Environment :=
    { load := Loader.ofTable
        [("p", "\x7b%block b%\x7d\x7b%block a%\x7d\x7b%endblock%\x7d\x7b%endblock%\x7d")] }
  have hparse : Document.parse
      "\x7b%extends'p'%\x7d\x7b%block a%\x7dA\x7b%endblock%\x7d\x7b%block b%\x7dB\x7b%endblock%\x7d" =
      .ok (.extending ⟨0, 1, 1⟩ "p"
        [⟨⟨14, 1, 15⟩, "a", [.text "A"]⟩, ⟨⟨38, 1, 39⟩, "b", [.text "B"]⟩]) := by
    with_unfolding_all rfl
  have hload : env.loadDocument "p" =
      .ok (.root [.block ⟨0, 1, 1⟩ "b" [.block ⟨11, 1, 12⟩ "a" []]]) := by with_unfolding_all rfl
  exact ⟨env, _, hparse, rfl, (compile_eq_substitute hparse env rfl hload rfl).1⟩

end TemplateEngine
