/-
  TemplateEngine.Proofs.Content.Address — where a node stands in a content, at any depth.

  An address leads to one node: the first one of the content, or to one behind it, or to
  one in a content inside it. So two contents can be compared node by node, and the blocks
  of a name can be counted by where they stand. A block is outermost if no other block of
  its name is around it.
-/

import Mathlib.Data.Set.Image
import TemplateEngine.Proofs.Content.Substitution

namespace TemplateEngine

inductive Address where
  | first
  | behind (rest : Address)
  /-- In the content inside the first node that has this number. -/
  | inside (part : Nat) (rest : Address)

/-- The first address is inside the node at the second one. -/
inductive Address.Within : Address → Address → Prop
  | first (part : Nat) (a : Address) : Within (.inside part a) .first
  | behind {a b : Address} : Within a b → Within (.behind a) (.behind b)
  | inside (part : Nat) {a b : Address} : Within a b → Within (.inside part a) (.inside part b)

/-- The node at an address, if the address leads to one. -/
def nodeAt? : Content → Address → Option Node
  | [], _ => none
  | node :: _, .first => some node
  | _ :: rest, .behind a => nodeAt? rest a
  | node :: _, .inside part a => node.contents[part]?.bind fun content => nodeAt? content a

theorem nodeAt?_nil (a : Address) : nodeAt? [] a = none := by cases a <;> rfl

namespace Node

theorem blockName?_eq_some_iff {node : Node} {name : String} :
    node.blockName? = some name ↔ ∃ position body, node = .block position name body := by
  constructor
  · intro h
    cases node with
    | block position other body =>
      cases h
      exact ⟨position, body, rfl⟩
    | _ => cases h
  · rintro ⟨position, body, rfl⟩
    rfl

/-! ## Nodes without what is inside them -/

/-- The node with all contents inside it emptied. -/
def shell (node : Node) : Node := node.mapContents fun _ => []

theorem contents_mapContents (f : Content → Content) (node : Node) :
    (node.mapContents f).contents = node.contents.map f := by
  cases node with
  | conditional position branches otherwise => cases otherwise <;> simp [mapContents, contents]
  | _ => rfl

theorem shell_mapContents (f : Content → Content) (node : Node) : (node.mapContents f).shell = node.shell :=
  mapContents_mapContents f _ node

theorem length_contents_of_shell {node other : Node} (h : node.shell = other.shell) :
    node.contents.length = other.contents.length := by
  have hlength (n : Node) : n.shell.contents.length = n.contents.length := by
    rw [shell, contents_mapContents, List.length_map]
  rw [← hlength node, h, hlength]

/-- A node is made of its shell and of the contents inside it. -/
theorem eq_of_shell {node other : Node} (hshell : node.shell = other.shell)
    (hcontents : node.contents = other.contents) : node = other := by
  cases node with
  | block position name content =>
    cases other with
    | block position' name' content' => simp_all [shell, mapContents, contents]
    | _ => simp [shell, mapContents] at hshell
  | conditional position branches otherwise =>
    cases other with
    | conditional position' branches' otherwise' =>
      simp only [shell, mapContents, conditional.injEq] at hshell
      obtain ⟨rfl, hbranches, hotherwise⟩ := hshell
      have hlength : branches.length = branches'.length := by simpa using congrArg List.length hbranches
      obtain ⟨hbodies, hlast⟩ := List.append_inj hcontents (by simpa using hlength)
      have hconditions : branches.unzip.1 = branches'.unzip.1 := by
        simpa [Function.comp_def] using congrArg (List.map (·.1)) hbranches
      have hbodies : branches.unzip.2 = branches'.unzip.2 := by simpa using hbodies
      have hsame : otherwise = otherwise' := by cases otherwise <;> cases otherwise' <;> simp_all
      rw [← List.zip_unzip branches, ← List.zip_unzip branches', hconditions, hbodies, hsame]
    | _ => simp [shell, mapContents] at hshell
  | loop position target collection filters body =>
    cases other with
    | loop => simp_all [shell, mapContents, contents]
    | _ => simp [shell, mapContents] at hshell
  | _ =>
    cases other <;> simp_all [shell, mapContents]

/-- The same shell, and inside it the changed contents: that is the changed node. -/
theorem eq_mapContents_iff {node other : Node} {f : Content → Content} :
    other = node.mapContents f ↔
      other.shell = node.shell ∧
        ∀ (i : Nat) part, node.contents[i]? = some part → other.contents[i]? = some (f part) := by
  constructor
  · rintro rfl
    refine ⟨shell_mapContents f node, fun i part hpart => ?_⟩
    rw [contents_mapContents, List.getElem?_map, hpart]
    rfl
  · rintro ⟨hshell, hparts⟩
    refine eq_of_shell (hshell.trans (shell_mapContents f node).symm) ?_
    rw [contents_mapContents]
    refine List.ext_getElem? fun i => ?_
    rw [List.getElem?_map]
    cases hpart : node.contents[i]? with
    | some part => exact hparts i part hpart
    | none =>
      rw [Option.map_none, List.getElem?_eq_none_iff, length_contents_of_shell hshell]
      exact List.getElem?_eq_none_iff.mp hpart

end Node

/-! ## Blocks of one name -/

/-- A block of the name stands at the address. -/
def BlockAt (name : String) (content : Content) (a : Address) : Prop :=
  ∃ position body, nodeAt? content a = some (.block position name body)

/-- No block of the name is around the address. -/
def Uncovered (name : String) (content : Content) (a : Address) : Prop :=
  ∀ b, a.Within b → ¬ BlockAt name content b

section

variable {name : String} {node : Node} {rest : Content} {a : Address} {i : Nat}

theorem blockAt_first : BlockAt name (node :: rest) .first ↔ node.blockName? = some name := by
  simp [BlockAt, nodeAt?, Node.blockName?_eq_some_iff]

theorem blockAt_inside : BlockAt name (node :: rest) (.inside i a) ↔
    ∃ part, node.contents[i]? = some part ∧ BlockAt name part a := by
  simp only [BlockAt, nodeAt?, Option.bind_eq_some_iff]
  constructor
  · rintro ⟨position, body, part, hpart, hblock⟩
    exact ⟨part, hpart, position, body, hblock⟩
  · rintro ⟨part, hpart, position, body, hblock⟩
    exact ⟨position, body, part, hpart, hblock⟩

theorem uncovered_first : Uncovered name (node :: rest) .first := nofun

theorem uncovered_behind : Uncovered name (node :: rest) (.behind a) ↔ Uncovered name rest a := by
  constructor
  · intro h b hb
    exact h (.behind b) (.behind hb)
  · rintro h _ ⟨⟩
    rename_i b hb
    exact h b hb

theorem uncovered_inside : Uncovered name (node :: rest) (.inside i a) ↔
    node.blockName? ≠ some name ∧ ∀ part, node.contents[i]? = some part → Uncovered name part a := by
  constructor
  · intro h
    refine ⟨fun hname => h .first (.first i a) (blockAt_first.mpr hname), fun part hpart b hb hblock => ?_⟩
    exact h (.inside i b) (.inside i hb) (blockAt_inside.mpr ⟨part, hpart, hblock⟩)
  · rintro ⟨hname, hparts⟩ _ ⟨⟩ hblock
    · exact hname (blockAt_first.mp hblock)
    · rename_i b hb
      obtain ⟨part, hpart, hblock⟩ := blockAt_inside.mp hblock
      exact hparts part hpart b hb hblock

end

end TemplateEngine
