/-
  TemplateEngine.Proofs.Content.Replacement — what replacing the blocks of a name changes.

  The outermost blocks of the name get the new body, wherever they are: in other blocks, in
  the branches of a condition, under its last `else` or in the body of a loop. A block of
  the name inside another one is gone with the body it was in, and blocks of the name in the
  new body are left alone. Outside these blocks every node is what it was.

  Proved:
  - `rebodied_iff`: there is one content in which exactly that has changed, and a walk for
    the one name comes to it.
  - `encard_outermost`: the blocks counted are the outermost ones.
  - `replaceBlocks_outermost`: both, and the laws of replacing none and replacing twice.
-/

import Mathlib.Data.Set.Card
import TemplateEngine.Proofs.Content.Address

namespace TemplateEngine

variable {name : String} {body : Content}

/-! ## What changes -/

/-- The second content is the first one with the body in its outermost blocks of the name. -/
structure Rebodied (name : String) (body old new : Content) : Prop where
  blocks {a : Address} {position : Position} {former : Content} : Uncovered name old a →
    nodeAt? old a = some (.block position name former) → nodeAt? new a = some (.block position name body)
  /-- Nodes are what they were, and stand where they did, but for what is inside them. -/
  others {a : Address} : Uncovered name old a → ¬ BlockAt name old a →
    (nodeAt? new a).map Node.shell = (nodeAt? old a).map Node.shell

namespace Node

theorem substitute_onlyBody {node : Node} (h : node.blockName? = some name) :
    node.substitute (onlyBody name body) = node.withBody body :=
  substitute_of_some (by rw [h, Option.bind_some, onlyBody, if_pos rfl])

theorem substitute_onlyBody_of_ne {node : Node} (h : node.blockName? ≠ some name) :
    node.substitute (onlyBody name body) = node.mapContents (substituteBlocks (onlyBody name body)) := by
  refine substitute_of_none ?_
  cases hn : node.blockName? with
  | none => rfl
  | some other =>
    rw [hn] at h
    rw [Option.bind_some, onlyBody, if_neg fun he => h (congrArg some he)]

end Node

theorem rebodied_substituteBlocks (name : String) (body content : Content) :
    Rebodied name body content (substituteBlocks (onlyBody name body) content) := by
  induction content using content_induction with
  | nil => exact ⟨fun _ hblock => by simp [nodeAt?_nil] at hblock, fun _ _ => rfl⟩
  | cons node rest hparts hrest =>
    rw [substituteBlocks]
    constructor
    · intro a position former hfree hblock
      cases a with
      | first =>
        cases hblock
        rw [Node.substitute_onlyBody rfl]
        rfl
      | behind a => exact hrest.blocks (uncovered_behind.mp hfree) hblock
      | inside i a =>
        obtain ⟨hname, hfree⟩ := uncovered_inside.mp hfree
        obtain ⟨part, hpart, hblock⟩ := Option.bind_eq_some_iff.mp hblock
        have hinside := (hparts part (List.mem_of_getElem? hpart)).blocks (hfree part hpart) hblock
        rw [Node.substitute_onlyBody_of_ne hname, nodeAt?, Node.contents_mapContents, List.getElem?_map, hpart]
        exact hinside
    · intro a hfree hother
      cases a with
      | first =>
        rw [Node.substitute_onlyBody_of_ne fun hname => hother (blockAt_first.mpr hname)]
        exact congrArg some (Node.shell_mapContents _ node)
      | behind a => exact hrest.others (uncovered_behind.mp hfree) hother
      | inside i a =>
        obtain ⟨hname, hfree⟩ := uncovered_inside.mp hfree
        rw [Node.substitute_onlyBody_of_ne hname, nodeAt?, nodeAt?, Node.contents_mapContents, List.getElem?_map]
        cases hpart : node.contents[i]? with
        | none => rfl
        | some part =>
          exact (hparts part (List.mem_of_getElem? hpart)).others (hfree part hpart) fun hblock =>
            hother (blockAt_inside.mpr ⟨part, hpart, hblock⟩)

namespace Rebodied

variable {node node' : Node} {rest rest' : Content}

theorem tail (h : Rebodied name body (node :: rest) (node' :: rest')) : Rebodied name body rest rest' :=
  ⟨fun hfree => h.blocks (uncovered_behind.mpr hfree), fun hfree => h.others (uncovered_behind.mpr hfree)⟩

theorem head_of_block (h : Rebodied name body (node :: rest) (node' :: rest'))
    (hname : node.blockName? = some name) : node' = node.withBody body := by
  obtain ⟨position, former, rfl⟩ := Node.blockName?_eq_some_iff.mp hname
  exact Option.some.inj (h.blocks uncovered_first rfl)

theorem shell_head (h : Rebodied name body (node :: rest) (node' :: rest'))
    (hname : node.blockName? ≠ some name) : node'.shell = node.shell :=
  Option.some.inj (h.others uncovered_first fun hblock => hname (blockAt_first.mp hblock))

theorem part (h : Rebodied name body (node :: rest) (node' :: rest')) (hname : node.blockName? ≠ some name)
    {i : Nat} {part part' : Content} (hpart : node.contents[i]? = some part)
    (hpart' : node'.contents[i]? = some part') : Rebodied name body part part' := by
  have hfree {a : Address} (ha : Uncovered name part a) : Uncovered name (node :: rest) (.inside i a) := by
    refine uncovered_inside.mpr ⟨hname, fun other hother => ?_⟩
    obtain rfl : part = other := Option.some.inj (hpart.symm.trans hother)
    exact ha
  have hnode (a : Address) : nodeAt? (node :: rest) (.inside i a) = nodeAt? part a := by
    rw [nodeAt?, hpart, Option.bind_some]
  have hnode' (a : Address) : nodeAt? (node' :: rest') (.inside i a) = nodeAt? part' a := by
    rw [nodeAt?, hpart', Option.bind_some]
  constructor
  · intro a position former ha hblock
    rw [← hnode']
    exact h.blocks (hfree ha) ((hnode a).trans hblock)
  · intro a ha hother
    rw [← hnode, ← hnode']
    refine h.others (hfree ha) ?_
    rwa [BlockAt, hnode]

end Rebodied

theorem eq_of_rebodied {content new : Content} (h : Rebodied name body content new) :
    new = substituteBlocks (onlyBody name body) content := by
  induction content using content_induction generalizing new with
  | nil =>
    cases new with
    | nil => rfl
    | cons node' rest' => cases h.others (a := .first) nofun nofun
  | cons node rest hparts hrest =>
    cases new with
    | nil =>
      by_cases hname : node.blockName? = some name
      · obtain ⟨position, former, rfl⟩ := Node.blockName?_eq_some_iff.mp hname
        cases h.blocks uncovered_first rfl
      · cases h.others uncovered_first fun hblock => hname (blockAt_first.mp hblock)
    | cons node' rest' =>
      rw [substituteBlocks, hrest h.tail]
      congr 1
      by_cases hname : node.blockName? = some name
      · rw [h.head_of_block hname, Node.substitute_onlyBody hname]
      · rw [Node.substitute_onlyBody_of_ne hname, Node.eq_mapContents_iff]
        have hshell := h.shell_head hname
        refine ⟨hshell, fun i part hpart => ?_⟩
        have hi : i < node'.contents.length := by
          rw [Node.length_contents_of_shell hshell]
          exact (List.getElem?_eq_some_iff.mp hpart).1
        have hpart' : node'.contents[i]? = some node'.contents[i] := List.getElem?_eq_getElem hi
        rw [hpart', ← hparts part (List.mem_of_getElem? hpart) (h.part hname hpart hpart')]

theorem rebodied_iff {content new : Content} :
    Rebodied name body content new ↔ new = (replaceBlocks name body content).1 := by
  rw [replaceBlocks_fst]
  exact ⟨eq_of_rebodied, fun h => h ▸ rebodied_substituteBlocks name body content⟩

/-! ## How many are changed -/

/-- Where the blocks of a name stand that are in no other block of that name. -/
def outermost (name : String) (content : Content) : Set Address :=
  {a | BlockAt name content a ∧ Uncovered name content a}

theorem outermost_nil : outermost name [] = ∅ := by
  ext a
  simp [outermost, BlockAt, nodeAt?_nil]

/-- Where they stand in a list of contents, with the number of the content. -/
def outermostAmong (name : String) (parts : List Content) : Set (Nat × Address) :=
  {x | ∃ part, parts[x.1]? = some part ∧ x.2 ∈ outermost name part}

theorem outermostAmong_cons (part : Content) (parts : List Content) :
    outermostAmong name (part :: parts) =
      Prod.mk 0 '' outermost name part ∪ Prod.map Nat.succ id '' outermostAmong name parts := by
  ext ⟨i, a⟩
  cases i <;> simp [outermostAmong]

theorem first_mem_outermost {node : Node} {rest : Content} :
    .first ∈ outermost name (node :: rest) ↔ node.blockName? = some name :=
  ⟨fun h => blockAt_first.mp h.1, fun h => ⟨blockAt_first.mpr h, uncovered_first⟩⟩

theorem behind_mem_outermost {node : Node} {rest : Content} {a : Address} :
    .behind a ∈ outermost name (node :: rest) ↔ a ∈ outermost name rest :=
  and_congr_right fun _ => uncovered_behind

theorem inside_mem_outermost {node : Node} {rest : Content} {i : Nat} {a : Address} :
    .inside i a ∈ outermost name (node :: rest) ↔
      node.blockName? ≠ some name ∧ (i, a) ∈ outermostAmong name node.contents := by
  constructor
  · rintro ⟨hblock, hfree⟩
    obtain ⟨hname, hfree⟩ := uncovered_inside.mp hfree
    obtain ⟨part, hpart, hblock⟩ := blockAt_inside.mp hblock
    exact ⟨hname, part, hpart, hblock, hfree part hpart⟩
  · rintro ⟨hname, part, hpart, hblock, hfree⟩
    refine ⟨blockAt_inside.mpr ⟨part, hpart, hblock⟩, uncovered_inside.mpr ⟨hname, fun other hother => ?_⟩⟩
    obtain rfl : part = other := Option.some.inj (hpart.symm.trans hother)
    exact hfree

theorem outermost_cons_of_block {node : Node} (h : node.blockName? = some name) (rest : Content) :
    outermost name (node :: rest) = {.first} ∪ .behind '' outermost name rest := by
  ext a
  cases a with
  | first => simp [first_mem_outermost, h]
  | behind a => simp [behind_mem_outermost]
  | inside i a => simp [inside_mem_outermost, h]

theorem outermost_cons {node : Node} (h : node.blockName? ≠ some name) (rest : Content) :
    outermost name (node :: rest) =
      (fun x => .inside x.1 x.2) '' outermostAmong name node.contents ∪ .behind '' outermost name rest := by
  ext a
  cases a with
  | first => simp [first_mem_outermost, h]
  | behind a => simp [behind_mem_outermost]
  | inside i a => simp [inside_mem_outermost, h]

theorem encard_outermostAmong {parts : List Content} {count : Content → Nat}
    (h : ∀ part ∈ parts, (outermost name part).encard = count part) :
    (outermostAmong name parts).encard = (parts.map count).sum := by
  induction parts with
  | nil => simp [outermostAmong]
  | cons part parts ih =>
    have happart : Disjoint (Prod.mk 0 '' outermost name part)
        (Prod.map Nat.succ id '' outermostAmong name parts) := by
      rw [Set.disjoint_left]
      rintro _ ⟨a, -, rfl⟩ ⟨x, -, hx⟩
      cases congrArg Prod.fst hx
    have hfirst := (Prod.mk_right_injective 0).encard_image (outermost name part)
    have hrest := (Nat.succ_injective.prodMap Function.injective_id).encard_image (outermostAmong name parts)
    rw [outermostAmong_cons, Set.encard_union_eq happart, hfirst, hrest, h part (List.mem_cons_self ..),
      ih fun part hpart => h part (List.mem_cons_of_mem _ hpart), List.map_cons, List.sum_cons, Nat.cast_add]

/-! ## What is counted -/

theorem replaceInBranches_snd (branches : List (Expr × Content)) :
    (replaceInBranches name body branches).2 =
      (branches.map fun b => (replaceBlocks name body b.2).2).sum := by
  induction branches with
  | nil => rfl
  | cons b rest ih => rw [replaceInBranches, List.map_cons, List.sum_cons, ← ih]

theorem Node.replaceBlock_snd (node : Node) :
    (node.replaceBlock name body).2 =
      if node.blockName? = some name then 1
      else (node.contents.map fun part => (replaceBlocks name body part).2).sum := by
  cases node with
  | block position other content =>
    by_cases hname : other = name <;> simp [replaceBlock, blockName?, contents, hname]
  | conditional position branches otherwise =>
    cases otherwise <;> simp [replaceBlock, blockName?, contents, replaceInBranches_snd, Function.comp_def]
  | loop position target collection filters body => simp [replaceBlock, blockName?, contents]
  | _ => rfl

theorem replaceBlocks_snd_cons (node : Node) (rest : Content) :
    (replaceBlocks name body (node :: rest)).2 =
      (node.replaceBlock name body).2 + (replaceBlocks name body rest).2 := by
  rw [replaceBlocks]

theorem encard_outermost (name : String) (body content : Content) :
    (outermost name content).encard = (replaceBlocks name body content).2 := by
  induction content using content_induction with
  | nil => rw [outermost_nil, Set.encard_empty]; rfl
  | cons node rest hparts hrest =>
    have hbehind : Function.Injective Address.behind := fun _ _ => Address.behind.inj
    have hinside : Function.Injective fun x : Nat × Address => Address.inside x.1 x.2 := by
      intro x y hxy
      exact Prod.ext (Address.inside.inj hxy).1 (Address.inside.inj hxy).2
    rw [replaceBlocks_snd_cons, Nat.cast_add, ← hrest, node.replaceBlock_snd]
    split
    · rename_i hname
      rw [outermost_cons_of_block hname, Set.encard_union_eq ?_, Set.encard_singleton, hbehind.encard_image]
      · rfl
      · rw [Set.disjoint_left]
        rintro _ rfl ⟨a, -, ha⟩
        cases ha
    · rename_i hname
      rw [outermost_cons hname, Set.encard_union_eq ?_, hinside.encard_image, hbehind.encard_image,
        encard_outermostAmong hparts]
      · rw [Set.disjoint_left]
        rintro _ ⟨x, -, rfl⟩ ⟨a, -, ha⟩
        cases ha

/-- Around a block of the name, or at it, there is an outermost one. -/
theorem outermost_nonempty {content : Content} {a : Address} (h : BlockAt name content a) :
    (outermost name content).Nonempty := by
  induction a generalizing content with
  | first =>
    cases content with
    | nil => simp [BlockAt, nodeAt?_nil] at h
    | cons node rest => exact ⟨.first, first_mem_outermost.mpr (blockAt_first.mp h)⟩
  | behind a ih =>
    cases content with
    | nil => simp [BlockAt, nodeAt?_nil] at h
    | cons node rest =>
      obtain ⟨b, hb⟩ := ih (show BlockAt name rest a from h)
      exact ⟨.behind b, behind_mem_outermost.mpr hb⟩
  | inside i a ih =>
    cases content with
    | nil => simp [BlockAt, nodeAt?_nil] at h
    | cons node rest =>
      by_cases hname : node.blockName? = some name
      · exact ⟨.first, first_mem_outermost.mpr hname⟩
      · obtain ⟨part, hpart, h⟩ := blockAt_inside.mp h
        obtain ⟨b, hb⟩ := ih h
        exact ⟨.inside i b, inside_mem_outermost.mpr ⟨hname, part, hpart, hb⟩⟩

theorem replaced_count_eq_zero_iff (name : String) (body content : Content) :
    (replaceBlocks name body content).2 = 0 ↔ ∀ a, ¬ BlockAt name content a := by
  rw [← Nat.cast_eq_zero (R := ℕ∞), ← encard_outermost, Set.encard_eq_zero]
  constructor
  · intro hempty a ha
    exact (outermost_nonempty ha).ne_empty hempty
  · intro h
    ext a
    exact ⟨fun ha => absurd ha.1 (h a), nofun⟩

/-! ## Replacing twice -/

theorem replaceBlocks_snd_of_replaced (name : String) (body body' content : Content) :
    (replaceBlocks name body' (substituteBlocks (onlyBody name body) content)).2 =
      (replaceBlocks name body' content).2 := by
  induction content using content_induction with
  | nil => rfl
  | cons node rest hparts hrest =>
    rw [substituteBlocks, replaceBlocks_snd_cons, replaceBlocks_snd_cons, hrest, Node.replaceBlock_snd,
      Node.replaceBlock_snd]
    congr 1
    by_cases hname : node.blockName? = some name
    · rw [Node.substitute_onlyBody hname, Node.blockName?_withBody, if_pos hname, if_pos hname]
    · rw [Node.substitute_onlyBody_of_ne hname, Node.blockName?_mapContents, if_neg hname, if_neg hname,
        Node.contents_mapContents, List.map_map]
      exact congrArg List.sum (List.map_congr_left hparts)

theorem replaceBlocks_replaceBlocks (name : String) (body body' content : Content) :
    replaceBlocks name body' (replaceBlocks name body content).1 = replaceBlocks name body' content := by
  have hboth : andThenBodies (onlyBody name body) (onlyBody name body') = onlyBody name body' := by
    funext other
    by_cases h : other = name <;> simp [andThenBodies, onlyBody, h]
  refine Prod.ext ?_ ?_
  · rw [replaceBlocks_fst, replaceBlocks_fst, replaceBlocks_fst, substituteBlocks_substituteBlocks, hboth]
  · rw [replaceBlocks_fst, replaceBlocks_snd_of_replaced]

/-- Replacing the blocks of a name gives the body to those that are in no other block of the
    name, and changes nothing else; it counts them, and so counts none where there is no block
    of the name at all, and nothing changes then. A second replacement finds the same blocks,
    whatever is in the first body. -/
theorem replaceBlocks_outermost (name : String) (body content : Content) :
    (∀ new, Rebodied name body content new ↔ new = (replaceBlocks name body content).1) ∧
    (outermost name content).encard = (replaceBlocks name body content).2 ∧
    ((replaceBlocks name body content).2 = 0 ↔ ∀ a, ¬ BlockAt name content a) ∧
    ((replaceBlocks name body content).2 = 0 → (replaceBlocks name body content).1 = content) ∧
    ∀ body', replaceBlocks name body' (replaceBlocks name body content).1 =
      replaceBlocks name body' content := by
  have hzero := replaced_count_eq_zero_iff name body content
  refine ⟨fun new => rebodied_iff, encard_outermost name body content, hzero, fun hcount => ?_,
    fun body' => replaceBlocks_replaceBlocks name body body' content⟩
  have hunchanged : Rebodied name body content content := by
    refine ⟨fun {a position former} _ hblock => ?_, fun _ _ => rfl⟩
    exact absurd ⟨position, former, hblock⟩ (hzero.mp hcount a)
  exact (rebodied_iff.mp hunchanged).symm

/-- Three blocks of a name, in another block, under an `else` and in a loop; the former and the
    new body hold one of that name too. No block has the other name. -/
theorem replaceBlocks_outermost_three :
    let block (name : String) (body : Content) : Node := .block ⟨0, 1, 1⟩ name body
    let tree (body : Content) : Content := [block "b" [block "a" body],
      .conditional ⟨0, 1, 1⟩ [(.var "x", [.text "x"])] (some [block "a" body]),
      .loop ⟨0, 1, 1⟩ (.value "y") (.var "ys") [] [block "a" body, .text "y"]]
    let former : Content := [block "a" []]
    let body : Content := [.text "new", block "a" []]
    (outermost "a" (tree former)).encard = 3 ∧ Rebodied "a" body (tree former) (tree body) ∧
      replaceBlocks "a" [] (tree body) = (tree [], 3) ∧
      (replaceBlocks "c" body (tree former)).2 = 0 ∧ (replaceBlocks "c" body (tree former)).1 = tree former := by
  intro block tree former body
  obtain ⟨hreplaced, hcount, -, -, hagain⟩ := replaceBlocks_outermost "a" body (tree former)
  obtain ⟨-, -, -, hunchanged, -⟩ := replaceBlocks_outermost "c" body (tree former)
  exact ⟨hcount, (hreplaced _).mpr rfl, hagain [], rfl, hunchanged rfl⟩

end TemplateEngine
