/-
  TemplateEngine.Proofs.Content.Joined — one content behind another.

  Where two contents meet, text goes on with text: what were two text nodes is one. The
  places of the second content are not those it had in a source of its own, so positions
  are changed throughout a content, at any depth (`Content.mapPositions`).
-/

import TemplateEngine.Proofs.Content.Parts

namespace TemplateEngine

/-! ## Positions -/

mutual

/-- Changes the positions of a node and of all nodes inside it. -/
def Node.mapPositions (f : Position → Position) : Node → Node
  | .text text => .text text
  | .output position e => .output (f position) e
  | .block position name content => .block (f position) name (Content.mapPositions f content)
  | .inclusion position name => .inclusion (f position) name
  | .conditional position branches otherwise =>
    .conditional (f position) (Content.mapPositionsOfBranches f branches)
      (Content.mapPositionsOfOption f otherwise)
  | .loop position target collection filters body =>
    .loop (f position) target collection filters (Content.mapPositions f body)
  | .assignment position name e => .assignment (f position) name e

def Content.mapPositions (f : Position → Position) : List Node → Content
  | [] => []
  | node :: rest => node.mapPositions f :: Content.mapPositions f rest

def Content.mapPositionsOfBranches (f : Position → Position) : List (Expr × List Node) → List (Expr × Content)
  | [] => []
  | (condition, content) :: rest =>
    (condition, Content.mapPositions f content) :: Content.mapPositionsOfBranches f rest

def Content.mapPositionsOfOption (f : Position → Position) : Option (List Node) → Option Content
  | none => none
  | some content => some (Content.mapPositions f content)

end

theorem mapPositionsOfBranches_eq_map (f : Position → Position) (branches : List (Expr × Content)) :
    Content.mapPositionsOfBranches f branches = branches.map fun b => (b.1, Content.mapPositions f b.2) := by
  induction branches with
  | nil => rfl
  | cons b rest ih => rw [Content.mapPositionsOfBranches, ih, List.map_cons]

theorem mapPositionsOfOption_eq_map (f : Position → Position) (otherwise : Option Content) :
    Content.mapPositionsOfOption f otherwise = otherwise.map (Content.mapPositions f) := by
  cases otherwise <;> rfl

theorem mapPositions_id (content : Content) : Content.mapPositions id content = content := by
  induction content using content_induction with
  | nil => rfl
  | cons node rest hparts ih =>
    have hnode : node.mapPositions id = node := by
      have hmap := Node.mapContents_id node hparts
      cases node with
      | conditional position branches otherwise =>
        rwa [Node.mapPositions, mapPositionsOfBranches_eq_map, mapPositionsOfOption_eq_map]
      | block | loop => rwa [Node.mapPositions]
      | _ => rfl
    rw [Content.mapPositions, hnode, ih]

theorem mapPositions_ne_text {node : Node} (h : ∀ x, node ≠ .text x) (f : Position → Position) (x : String) :
    node.mapPositions f ≠ .text x := by
  cases node with
  | text y => exact absurd rfl (h y)
  | _ => rw [Node.mapPositions]; exact nofun

/-! ## Contents put together -/

/-- One content behind another. Text behind text is one text. -/
def Content.joined : Content → Content → Content
  | [], b => b
  | [.text x], .text y :: b => .text (x ++ y) :: b
  | node :: a, b => node :: Content.joined a b

theorem joined_nil (a : Content) : a.joined [] = a := by
  induction a with
  | nil => rfl
  | cons node a ih =>
    rw [Content.joined, ih]
    exact nofun

theorem joined_cons {node : Node} (h : ∀ x, node ≠ .text x) (a b : Content) :
    Content.joined (node :: a) b = node :: Content.joined a b := by
  rw [Content.joined]
  exact fun x _ _ _ hnode => absurd hnode (h x)

theorem joined_cons_cons (node next : Node) (a b : Content) :
    Content.joined (node :: next :: a) b = node :: Content.joined (next :: a) b := by
  rw [Content.joined]
  exact fun _ _ _ _ _ ha => nomatch ha

end TemplateEngine
