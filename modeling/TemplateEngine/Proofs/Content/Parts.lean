/-
  TemplateEngine.Proofs.Content.Parts — contents inside contents.

  Blocks, branches and loops hold contents of their own. `Node.contents` lists them and
  `Node.mapContents` changes them, so that a fact about contents of any depth is one
  induction (`content_induction`) with one step, whatever kind of node the content is in.
-/

import TemplateEngine.Node.Basic

namespace TemplateEngine

namespace Node

/-- The contents directly inside a node, in the order of the source. -/
def contents : Node → List Content
  | block _ _ content => [content]
  | conditional _ branches otherwise => branches.map (·.2) ++ otherwise.toList
  | loop _ _ _ _ body => [body]
  | _ => []

/-- Changes the contents directly inside a node and keeps the rest of it. -/
def mapContents (f : Content → Content) : Node → Node
  | block position name content => block position name (f content)
  | conditional position branches otherwise =>
    conditional position (branches.map fun b => (b.1, f b.2)) (otherwise.map f)
  | loop position target collection filters body => loop position target collection filters (f body)
  | other => other

theorem mapContents_congr {f g : Content → Content} (node : Node)
    (h : ∀ part ∈ node.contents, f part = g part) : node.mapContents f = node.mapContents g := by
  cases node with
  | block position name content => simp only [mapContents, h content (by simp [contents])]
  | conditional position branches otherwise =>
    have hb : branches.map (fun b => (b.1, f b.2)) = branches.map fun b => (b.1, g b.2) :=
      List.map_congr_left fun b hm =>
        congrArg _ (h b.2 (List.mem_append_left _ (List.mem_map_of_mem hm)))
    have ho : otherwise.map f = otherwise.map g :=
      Option.map_congr fun content hm => h content (by simp [contents, hm])
    simp only [mapContents, hb, ho]
  | loop position target collection filters body =>
    simp only [mapContents, h body (by simp [contents])]
  | _ => rfl

theorem mapContents_mapContents (f g : Content → Content) (node : Node) :
    (node.mapContents f).mapContents g = node.mapContents (g ∘ f) := by
  cases node <;> simp [mapContents]

theorem mapContents_id {f : Content → Content} (node : Node)
    (h : ∀ part ∈ node.contents, f part = part) : node.mapContents f = node := by
  rw [mapContents_congr node (g := id) h]
  cases node <;> simp [mapContents]

end Node

/-! ## Induction over contents of any depth -/

theorem Node.sizeOf_lt_of_mem_contents {node : Node} {part : Content} (hp : part ∈ node.contents) :
    sizeOf part < sizeOf node := by
  cases node with
  | block position name content =>
    rw [List.mem_singleton.mp hp]
    simp only [block.sizeOf_spec]; omega
  | conditional position branches otherwise =>
    simp only [conditional.sizeOf_spec]
    rcases List.mem_append.mp hp with hp | hp
    · obtain ⟨⟨condition, content⟩, hb, rfl⟩ := List.mem_map.mp hp
      have := List.sizeOf_lt_of_mem hb
      simp only [Prod.mk.sizeOf_spec] at this ⊢; omega
    · rw [Option.mem_toList] at hp
      subst hp
      simp only [Option.some.sizeOf_spec]; omega
  | loop position target collection filters body =>
    rw [List.mem_singleton.mp hp]
    simp only [loop.sizeOf_spec]; omega
  | _ => cases hp

/-- What holds of a content as soon as it holds of the contents inside its first node and
    of its other nodes holds of every content. -/
theorem content_induction {motive : Content → Prop} (nil : motive [])
    (cons : ∀ node rest, (∀ part ∈ node.contents, motive part) → motive rest → motive (node :: rest)) :
    ∀ content, motive content
  | [] => nil
  | node :: rest =>
    cons node rest (fun part _ => content_induction nil cons part) (content_induction nil cons rest)
termination_by content => sizeOf content
decreasing_by
  · have := Node.sizeOf_lt_of_mem_contents ‹part ∈ node.contents›
    simp only [List.cons.sizeOf_spec]; omega
  · simp only [List.cons.sizeOf_spec]; omega

/-- The node stands in the content, at any depth. -/
inductive Occurs (node : Node) : Content → Prop
  | here {content : Content} : node ∈ content → Occurs node content
  | inside {content part : Content} {around : Node} :
      around ∈ content → part ∈ around.contents → Occurs node part → Occurs node content

theorem Occurs.mono {node : Node} {content content' : Content} (hsub : content ⊆ content')
    (h : Occurs node content) : Occurs node content' := by
  cases h with
  | here hmem => exact .here (hsub hmem)
  | inside hmem hpart hinside => exact .inside (hsub hmem) hpart hinside

theorem Occurs.mem_of_leaves {node : Node} {content : Content} (hleaves : ∀ leaf ∈ content, leaf.contents = [])
    (h : Occurs node content) : node ∈ content := by
  cases h with
  | here hmem => exact hmem
  | inside hmem hpart _ =>
    rw [hleaves _ hmem] at hpart
    cases hpart

/-! ## The names of blocks -/

mutual

/-- The names of the blocks of a node, itself and at any depth. -/
def Node.blockNames : Node → List String
  | .block _ name content => name :: Content.blockNames content
  | .conditional _ branches otherwise =>
    Content.blockNamesOfBranches branches ++ Content.blockNamesOfOption otherwise
  | .loop _ _ _ _ body => Content.blockNames body
  | _ => []

def Content.blockNames : List Node → List String
  | [] => []
  | node :: rest => node.blockNames ++ Content.blockNames rest

def Content.blockNamesOfBranches : List (Expr × List Node) → List String
  | [] => []
  | (_, content) :: rest => Content.blockNames content ++ Content.blockNamesOfBranches rest

def Content.blockNamesOfOption : Option (List Node) → List String
  | none => []
  | some content => Content.blockNames content

end

theorem mem_blockNamesOfBranches {branches : List (Expr × Content)} {name : String} :
    name ∈ Content.blockNamesOfBranches branches ↔
      ∃ b ∈ branches, name ∈ Content.blockNames b.2 := by
  induction branches with
  | nil => simp [Content.blockNamesOfBranches]
  | cons b rest ih => simp [Content.blockNamesOfBranches, ih]

theorem mem_blockNames {content : Content} {name : String} :
    name ∈ Content.blockNames content ↔ ∃ node ∈ content, name ∈ node.blockNames := by
  induction content with
  | nil => simp [Content.blockNames]
  | cons node rest ih => simp [Content.blockNames, ih]

/-- A block inside one of a node's contents is a block of the node. -/
theorem mem_blockNames_of_part {node : Node} {part : Content} (hp : part ∈ node.contents)
    {name : String} (hn : name ∈ Content.blockNames part) : name ∈ node.blockNames := by
  cases node with
  | block position other content =>
    rw [List.mem_singleton.mp hp] at hn
    exact List.mem_cons_of_mem _ hn
  | conditional position branches otherwise =>
    rw [Node.blockNames]
    rcases List.mem_append.mp hp with hp | hp
    · obtain ⟨b, hm, rfl⟩ := List.mem_map.mp hp
      exact List.mem_append_left _ (mem_blockNamesOfBranches.mpr ⟨b, hm, hn⟩)
    · rw [Option.mem_toList] at hp
      subst hp
      exact List.mem_append_right _ hn
  | loop position target collection filters body =>
    rw [List.mem_singleton.mp hp] at hn
    exact hn
  | _ => cases hp

end TemplateEngine
