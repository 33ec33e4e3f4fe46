/-
  TemplateEngine.Proofs.Content.Substitution — new contents for blocks, by name.

  One walk from the top gives each block whose name has a new content that content, and
  does not go on inside it; every other block, branch and loop is walked through. Nothing
  else changes: nodes, their order, names and positions stay.

  Proved:
  - `substituteBlocks_substituteBlocks`: one walk after another is a walk, in which the
    second one's contents win and the first one's are walked by the second.
  - `replaceBlocks_fst`: replacing one name is the walk for that name alone.
  - `substituteBlocks_of_absent`: a walk for names no block has changes nothing.
  - `substituteBlocks_eq_mapBlocks`: a walk only ever changes what is inside the
    outermost blocks (`mapBlocks`).
-/

import TemplateEngine.Inheritance
import TemplateEngine.Proofs.Content.Parts

namespace TemplateEngine

mutual

def Node.substitute (bodies : String → Option Content) : Node → Node
  | .block position name content =>
    match bodies name with
    | some body => .block position name body
    | none => .block position name (substituteBlocks bodies content)
  | .conditional position branches none =>
    .conditional position (substituteInBranches bodies branches) none
  | .conditional position branches (some content) =>
    .conditional position (substituteInBranches bodies branches) (some (substituteBlocks bodies content))
  | .loop position target collection filters body =>
    .loop position target collection filters (substituteBlocks bodies body)
  | other => other

/-- Gives the blocks that have a new content that content, in one walk from the top. -/
def substituteBlocks (bodies : String → Option Content) : Content → Content
  | [] => []
  | node :: rest => node.substitute bodies :: substituteBlocks bodies rest

def substituteInBranches (bodies : String → Option Content) :
    List (Expr × Content) → List (Expr × Content)
  | [] => []
  | (condition, content) :: rest =>
    (condition, substituteBlocks bodies content) :: substituteInBranches bodies rest

end

theorem substituteInBranches_eq_map (bodies : String → Option Content)
    (branches : List (Expr × Content)) :
    substituteInBranches bodies branches = branches.map fun b => (b.1, substituteBlocks bodies b.2) := by
  induction branches with
  | nil => rfl
  | cons b rest ih => rw [substituteInBranches, ih]; rfl

namespace Node

/-- The name of a block. -/
def blockName? : Node → Option String
  | block _ name _ => some name
  | _ => none

/-- A block with a new content. -/
def withBody (body : Content) : Node → Node
  | block position name _ => block position name body
  | other => other

/-- The two cases of the walk: a block with a new content takes it, and any other node is
    walked through. -/
theorem substitute_eq (bodies : String → Option Content) (node : Node) :
    node.substitute bodies =
      match node.blockName?.bind bodies with
      | some body => node.withBody body
      | none => node.mapContents (substituteBlocks bodies) := by
  cases node with
  | block position name content => rw [substitute]; rfl
  | conditional position branches otherwise =>
    cases otherwise <;> rw [substitute, substituteInBranches_eq_map] <;> rfl
  | loop position target collection filters body => rw [substitute]; rfl
  | _ => rfl

theorem substitute_of_none {bodies : String → Option Content} {node : Node}
    (h : node.blockName?.bind bodies = none) :
    node.substitute bodies = node.mapContents (substituteBlocks bodies) := by
  rw [substitute_eq, h]

theorem substitute_of_some {bodies : String → Option Content} {node : Node} {body : Content}
    (h : node.blockName?.bind bodies = some body) : node.substitute bodies = node.withBody body := by
  rw [substitute_eq, h]

@[simp] theorem blockName?_withBody (body : Content) (node : Node) :
    (node.withBody body).blockName? = node.blockName? := by
  cases node <;> rfl

@[simp] theorem blockName?_mapContents (f : Content → Content) (node : Node) :
    (node.mapContents f).blockName? = node.blockName? := by
  cases node <;> rfl

theorem withBody_withBody (body body' : Content) (node : Node) :
    (node.withBody body).withBody body' = node.withBody body' := by
  cases node <;> rfl

theorem withBody_mapContents {node : Node} {name : String} (h : node.blockName? = some name)
    (f : Content → Content) (body : Content) :
    (node.mapContents f).withBody body = node.withBody body := by
  cases node with
  | block position other content => rfl
  | _ => cases h

theorem mapContents_withBody {node : Node} {name : String} (h : node.blockName? = some name)
    (f : Content → Content) (body : Content) :
    (node.withBody body).mapContents f = node.withBody (f body) := by
  cases node with
  | block position other content => rfl
  | _ => cases h

theorem mem_blockNames_of_blockName? {node : Node} {name : String} (h : node.blockName? = some name) :
    name ∈ node.blockNames := by
  cases node with
  | block position other content =>
    cases h
    rw [blockNames]
    exact List.mem_cons_self ..
  | _ => cases h

end Node

/-! ## One walk after another -/

/-- What one walk after another gives the blocks of a name. -/
def andThenBodies (first second : String → Option Content) (name : String) : Option Content :=
  (second name).or ((first name).map (substituteBlocks second))

theorem Node.substitute_substitute {first second : String → Option Content} (node : Node)
    (ih : ∀ part ∈ node.contents, substituteBlocks second (substituteBlocks first part) =
      substituteBlocks (andThenBodies first second) part) :
    (node.substitute first).substitute second = node.substitute (andThenBodies first second) := by
  cases hn : node.blockName? with
  | none =>
    have hf : node.blockName?.bind first = none := by rw [hn]; rfl
    have hs : (node.mapContents (substituteBlocks first)).blockName?.bind second = none := by simp [hn]
    have hb : node.blockName?.bind (andThenBodies first second) = none := by rw [hn]; rfl
    rw [substitute_of_none hf, substitute_of_none hs, substitute_of_none hb, mapContents_mapContents]
    exact mapContents_congr node ih
  | some name =>
    have hb : node.blockName?.bind (andThenBodies first second) =
        (second name).or ((first name).map (substituteBlocks second)) := by rw [hn]; rfl
    cases hf : first name with
    | none =>
      have hfirst : node.blockName?.bind first = none := by simp [hn, hf]
      rw [substitute_of_none hfirst]
      cases hs : second name with
      | none =>
        rw [hf, hs] at hb
        rw [substitute_of_none (by simp [hn, hs]), substitute_of_none hb, mapContents_mapContents]
        exact mapContents_congr node ih
      | some body =>
        rw [hs, Option.some_or] at hb
        have hsecond : (node.mapContents (substituteBlocks first)).blockName?.bind second = some body := by
          simp [hn, hs]
        rw [substitute_of_some hsecond, substitute_of_some hb, withBody_mapContents hn]
    | some body =>
      have hfirst : node.blockName?.bind first = some body := by simp [hn, hf]
      rw [substitute_of_some hfirst]
      cases hs : second name with
      | none =>
        rw [hf, hs] at hb
        rw [substitute_of_none (by simp [hn, hs]), substitute_of_some hb, mapContents_withBody hn]
      | some body' =>
        rw [hs, Option.some_or] at hb
        have hsecond : (node.withBody body).blockName?.bind second = some body' := by simp [hn, hs]
        rw [substitute_of_some hsecond, substitute_of_some hb, withBody_withBody]

theorem substituteBlocks_substituteBlocks (first second : String → Option Content) (content : Content) :
    substituteBlocks second (substituteBlocks first content) =
      substituteBlocks (andThenBodies first second) content := by
  induction content using content_induction with
  | nil => rfl
  | cons node rest hparts hrest =>
    simp only [substituteBlocks]
    rw [node.substitute_substitute hparts, hrest]

/-! ## Walks that change nothing -/

theorem substituteBlocks_of_absent {bodies : String → Option Content} (content : Content)
    (h : ∀ name ∈ Content.blockNames content, bodies name = none) :
    substituteBlocks bodies content = content := by
  induction content using content_induction with
  | nil => rfl
  | cons node rest hparts hrest =>
    rw [Content.blockNames] at h
    have hnode : node.blockName?.bind bodies = none := by
      cases hn : node.blockName? with
      | none => rfl
      | some name => exact h name (List.mem_append_left _ (Node.mem_blockNames_of_blockName? hn))
    have hinside : node.mapContents (substituteBlocks bodies) = node :=
      node.mapContents_id fun part hp => hparts part hp fun name hn =>
        h name (List.mem_append_left _ (mem_blockNames_of_part hp hn))
    rw [substituteBlocks, Node.substitute_of_none hnode, hinside,
      hrest fun name hn => h name (List.mem_append_right _ hn)]

/-! ## Replacing one name -/

/-- The one name that has a new content. -/
def onlyBody (name : String) (body : Content) (other : String) : Option Content :=
  if other = name then some body else none

theorem replaceInBranches_fst {name : String} {replacement : Content} (branches : List (Expr × Content))
    (ih : ∀ b ∈ branches, (replaceBlocks name replacement b.2).1 =
      substituteBlocks (onlyBody name replacement) b.2) :
    (replaceInBranches name replacement branches).1 =
      branches.map fun b => (b.1, substituteBlocks (onlyBody name replacement) b.2) := by
  induction branches with
  | nil => rfl
  | cons b rest ihr =>
    rw [replaceInBranches, List.map_cons, ← ih b (List.mem_cons_self ..),
      ← ihr fun b hb => ih b (List.mem_cons_of_mem _ hb)]

theorem Node.replaceBlock_fst {name : String} {replacement : Content} (node : Node)
    (ih : ∀ part ∈ node.contents, (replaceBlocks name replacement part).1 =
      substituteBlocks (onlyBody name replacement) part) :
    (node.replaceBlock name replacement).1 = node.substitute (onlyBody name replacement) := by
  cases node with
  | block position other content =>
    rw [replaceBlock, substitute, onlyBody]
    split
    · rfl
    · rw [← ih content (List.mem_singleton.mpr rfl)]
  | conditional position branches otherwise =>
    have hb := replaceInBranches_fst branches fun b hb =>
      ih b.2 (List.mem_append_left _ (List.mem_map_of_mem hb))
    cases otherwise with
    | none => rw [replaceBlock, substitute, substituteInBranches_eq_map, ← hb]
    | some content =>
      have ho := ih content (List.mem_append_right _ (List.mem_singleton.mpr rfl))
      rw [replaceBlock, substitute, substituteInBranches_eq_map, ← hb, ← ho]
  | loop position target collection filters body =>
    rw [replaceBlock, substitute, ← ih body (List.mem_singleton.mpr rfl)]
  | _ => rfl

theorem replaceBlocks_fst (name : String) (replacement content : Content) :
    (replaceBlocks name replacement content).1 =
      substituteBlocks (onlyBody name replacement) content := by
  induction content using content_induction with
  | nil => rfl
  | cons node rest hparts hrest =>
    rw [replaceBlocks, substituteBlocks, ← node.replaceBlock_fst hparts, ← hrest]

/-! ## The outermost blocks -/

mutual

def Node.mapBlocks (f : String → Content → Content) : Node → Node
  | .block position name content => .block position name (f name content)
  | .conditional position branches none => .conditional position (mapBlocksOfBranches f branches) none
  | .conditional position branches (some content) =>
    .conditional position (mapBlocksOfBranches f branches) (some (mapBlocks f content))
  | .loop position target collection filters body =>
    .loop position target collection filters (mapBlocks f body)
  | other => other

/-- Changes the content of each outermost block, by the block's name, and nothing else. -/
def mapBlocks (f : String → Content → Content) : Content → Content
  | [] => []
  | node :: rest => node.mapBlocks f :: mapBlocks f rest

def mapBlocksOfBranches (f : String → Content → Content) :
    List (Expr × Content) → List (Expr × Content)
  | [] => []
  | (condition, content) :: rest => (condition, mapBlocks f content) :: mapBlocksOfBranches f rest

end

theorem mapBlocksOfBranches_eq_map (f : String → Content → Content) (branches : List (Expr × Content)) :
    mapBlocksOfBranches f branches = branches.map fun b => (b.1, mapBlocks f b.2) := by
  induction branches with
  | nil => rfl
  | cons b rest ih => rw [mapBlocksOfBranches, ih]; rfl

namespace Node

theorem mapBlocks_of_block {f : String → Content → Content} (position : Position) (name : String)
    (content : Content) :
    (block position name content).mapBlocks f = block position name (f name content) := by
  rw [mapBlocks]

theorem mapBlocks_of_none {f : String → Content → Content} {node : Node} (h : node.blockName? = none) :
    node.mapBlocks f = node.mapContents (TemplateEngine.mapBlocks f) := by
  cases node with
  | block position name content => cases h
  | conditional position branches otherwise =>
    cases otherwise <;> rw [mapBlocks, mapBlocksOfBranches_eq_map] <;> rfl
  | loop position target collection filters body => rw [mapBlocks]; rfl
  | _ => rfl

end Node

theorem mapBlocks_mapBlocks (f g : String → Content → Content) (content : Content) :
    mapBlocks g (mapBlocks f content) = mapBlocks (fun name body => g name (f name body)) content := by
  induction content using content_induction with
  | nil => rfl
  | cons node rest hparts hrest =>
    simp only [mapBlocks]
    rw [hrest]
    congr 1
    cases hn : node.blockName? with
    | none =>
      rw [Node.mapBlocks_of_none hn, Node.mapBlocks_of_none (by simpa using hn),
        Node.mapBlocks_of_none hn, Node.mapContents_mapContents]
      exact node.mapContents_congr hparts
    | some name =>
      cases node with
      | block position other body => simp only [Node.mapBlocks_of_block]
      | _ => cases hn

theorem mapBlocks_self (content : Content) : mapBlocks (fun _ body => body) content = content := by
  induction content using content_induction with
  | nil => rfl
  | cons node rest hparts hrest =>
    rw [mapBlocks, hrest]
    congr 1
    cases hn : node.blockName? with
    | none => rw [Node.mapBlocks_of_none hn, node.mapContents_id hparts]
    | some name =>
      cases node with
      | block position other body => rw [Node.mapBlocks_of_block]
      | _ => cases hn

/-- Outside the outermost blocks a walk changes nothing. -/
theorem substituteBlocks_eq_mapBlocks (bodies : String → Option Content) (content : Content) :
    substituteBlocks bodies content =
      mapBlocks (fun name body => (bodies name).getD (substituteBlocks bodies body)) content := by
  induction content using content_induction with
  | nil => rfl
  | cons node rest hparts hrest =>
    rw [substituteBlocks, mapBlocks, ← hrest]
    congr 1
    cases hn : node.blockName? with
    | none =>
      rw [Node.mapBlocks_of_none hn, Node.substitute_of_none (by rw [hn]; rfl)]
      exact node.mapContents_congr hparts
    | some name =>
      cases node with
      | block position other body =>
        rw [Node.mapBlocks_of_block, Node.substitute]
        cases bodies other <;> rfl
      | _ => cases hn

end TemplateEngine
