/-
  TemplateEngine.Proofs.Document.Print — documents written as text.

  Nodes are written one after the other. Text is written as it is, but for each opening
  brace, which could open a tag and so stands in a verbatim statement of its own. The text
  of a node is given together with what follows it, as tags are closed by later tags.

  `Printable` are the contents and documents that some text is read as. Their expressions
  are printable, and may be written with more parentheses than they need.
-/

import Mathlib.Data.List.Chain
import TemplateEngine.Proofs.Expression.Print
import TemplateEngine.Proofs.Grammar.BlockNames

namespace TemplateEngine

open TemplateEngine.Expr (Place)

def Node.isText : Node → Bool
  | .text _ => true
  | _ => false

/-! ## Writing -/

/-- The tag of a word, up to what stands inside it. -/
def tag (word : String) (inside : List Char) : List Char :=
  '\x7b' :: '%' :: ' ' :: (word.toList ++ ' ' :: inside)

def tagEnd (rest : List Char) : List Char := '%' :: '\x7d' :: rest

def printText : List Char → List Char → List Char
  | [], rest => rest
  | c :: cs, rest =>
    if c = '\x7b' then
      tag "verbatim" (tagEnd ('\x7b' :: tag "endverbatim" (tagEnd (printText cs rest))))
    else c :: printText cs rest

def Target.print : Target → List Char → List Char
  | .value name, rest => name.toList ++ rest
  | .pair keyName valueName, rest => keyName.toList ++ ',' :: ' ' :: (valueName.toList ++ rest)

section

variable (extra : Place → Expr → Bool)

/-- The filters of a loop, up to the end of its tag. -/
def printFilters : List Expr → List Char → List Char
  | [], rest => ' ' :: tagEnd rest
  | filter :: filters, rest =>
    ' ' :: '|' :: ' ' :: ("filter".toList ++ ' ' :: (filter.bare extra true ++ printFilters filters rest))

mutual

/-- The text of a node in front of `rest`. -/
def Node.print : Node → List Char → List Char
  | .text s, rest => printText s.toList rest
  | .output _ e, rest =>
    '\x7b' :: '\x7b' :: ' ' :: (e.written extra .free ++ ' ' :: '\x7d' :: '\x7d' :: rest)
  | .block _ name content, rest =>
    tag "block" (name.toList ++ ' ' :: tagEnd (Content.print content (tag "endblock" (tagEnd rest))))
  | .inclusion _ name, rest => tag "include" (Scan.quoted '"' name ++ ' ' :: tagEnd rest)
  | .conditional _ branches none, rest => printBranches "if" branches (tag "endif" (tagEnd rest))
  | .conditional _ branches (some content), rest =>
    printBranches "if" branches
      (tag "else" (tagEnd (Content.print content (tag "endif" (tagEnd rest)))))
  | .loop _ target collection filters body, rest =>
    tag "for" (target.print (' ' :: ("in".toList ++ ' ' :: (collection.written extra .free ++
      printFilters extra filters (Content.print body (tag "endfor" (tagEnd rest)))))))
  | .assignment _ name e, rest =>
    tag "set" (name.toList ++ ' ' :: '=' :: ' ' :: (e.written extra .free ++ ' ' :: tagEnd rest))

def Content.print : List Node → List Char → List Char
  | [], rest => rest
  | node :: nodes, rest => node.print (Content.print nodes rest)

/-- The branches of a conditional, the first of them opened by `word`. -/
def printBranches (word : String) : List (Expr × List Node) → List Char → List Char
  | [], rest => rest
  | (condition, content) :: branches, rest =>
    tag word (condition.written extra .free ++ ' ' :: tagEnd
      (Content.print content (printBranches "elseif" branches rest)))

end

def Override.print (o : Override) (rest : List Char) : List Char :=
  (Node.block o.position o.name o.content).print extra rest

def Document.print : Document → String
  | .root content => String.ofList (Content.print extra content [])
  | .extending _ parent overrides =>
    String.ofList (tag "extends" (Scan.quoted '"' parent ++ ' ' ::
      tagEnd (overrides.foldr (Override.print extra) [])))

end

/-! ## How long what follows is -/

theorem length_tag (word : String) (inside : List Char) :
    (tag word inside).length = word.toList.length + inside.length + 4 := by
  simp only [tag, List.length_cons, List.length_append]
  omega

theorem length_tagEnd (rest : List Char) : (tagEnd rest).length = rest.length + 2 := rfl

theorem length_le_printText (cs rest : List Char) : rest.length ≤ (printText cs rest).length := by
  induction cs with
  | nil => exact Nat.le_refl _
  | cons c cs ih =>
    rw [printText]
    split <;> simp only [length_tag, length_tagEnd, List.length_cons] <;> omega

section

variable (extra : Place → Expr → Bool)

theorem length_le_printFilters (filters : List Expr) (rest : List Char) :
    filters.length + rest.length ≤ (printFilters extra filters rest).length := by
  induction filters with
  | nil =>
    simp only [printFilters, length_tagEnd, List.length_cons, List.length_nil]
    omega
  | cons f filters ih =>
    simp only [printFilters, List.length_append, List.length_cons]
    omega

theorem length_le_loop (target : Target) (collection : Expr) (filters : List Expr) (body : List Char) :
    body.length ≤ (target.print (' ' :: ("in".toList ++ ' ' :: (collection.written extra .free ++
      printFilters extra filters body)))).length := by
  have hbehind := length_le_printFilters extra filters body
  cases target <;> simp only [Target.print, List.length_append, List.length_cons] <;> omega

mutual

theorem length_lt_node : ∀ (node : Node) (rest : List Char), node.isText = false →
    rest.length < (node.print extra rest).length
  | .text _, _, h => nomatch h
  | .output _ e, rest, _ => by
    simp only [Node.print, List.length_cons, List.length_append]
    omega
  | .block _ name content, rest, _ => by
    have hcontent := length_le_content content (tag "endblock" (tagEnd rest))
    simp only [Node.print, length_tag, length_tagEnd, List.length_cons, List.length_append] at hcontent ⊢
    omega
  | .inclusion _ name, rest, _ => by
    simp only [Node.print, length_tag, length_tagEnd, List.length_cons, List.length_append]
    omega
  | .conditional _ branches none, rest, _ => by
    have hbranches := length_le_printBranches branches "if" (tag "endif" (tagEnd rest))
    simp only [Node.print, length_tag, length_tagEnd] at hbranches ⊢
    omega
  | .conditional _ branches (some content), rest, _ => by
    have hcontent := length_le_content content (tag "endif" (tagEnd rest))
    have hbranches := length_le_printBranches branches "if"
      (tag "else" (tagEnd (Content.print extra content (tag "endif" (tagEnd rest)))))
    simp only [Node.print, length_tag, length_tagEnd] at hcontent hbranches ⊢
    omega
  | .loop _ target collection filters body, rest, _ => by
    have hbody := length_le_content body (tag "endfor" (tagEnd rest))
    have hinside := length_le_loop extra target collection filters
      (Content.print extra body (tag "endfor" (tagEnd rest)))
    simp only [Node.print, length_tag, length_tagEnd] at hbody hinside ⊢
    omega
  | .assignment _ name e, rest, _ => by
    simp only [Node.print, length_tag, length_tagEnd, List.length_cons, List.length_append]
    omega

theorem length_le_content : ∀ (content : List Node) (rest : List Char),
    rest.length ≤ (Content.print extra content rest).length
  | [], rest => Nat.le_refl _
  | node :: nodes, rest => by
    have hnodes := length_le_content nodes rest
    rw [Content.print]
    cases hnode : node.isText with
    | true =>
      cases node with
      | text s => exact Nat.le_trans hnodes (length_le_printText s.toList _)
      | _ => cases hnode
    | false => exact Nat.le_trans hnodes (Nat.le_of_lt (length_lt_node node _ hnode))

theorem length_le_printBranches : ∀ (branches : List (Expr × List Node)) (word : String) (rest : List Char),
    branches.length + rest.length ≤ (printBranches extra word branches rest).length
  | [], word, rest => by
    rw [printBranches, List.length_nil]
    omega
  | (condition, content) :: branches, word, rest => by
    have hbranches := length_le_printBranches branches "elseif" rest
    have hcontent := length_le_content content (printBranches extra "elseif" branches rest)
    simp only [printBranches, length_tag, length_tagEnd, List.length_cons, List.length_append]
    omega

end

end

/-! ## Without positions -/

mutual

/-- The node with all its positions at the start of a source. -/
def Node.unplaced : Node → Node
  | .text s => .text s
  | .output _ e => .output (.after []) e
  | .block _ name content => .block (.after []) name (Content.unplaced content)
  | .inclusion _ name => .inclusion (.after []) name
  | .conditional _ branches none => .conditional (.after []) (unplacedBranches branches) none
  | .conditional _ branches (some content) =>
    .conditional (.after []) (unplacedBranches branches) (some (Content.unplaced content))
  | .loop _ target collection filters body =>
    .loop (.after []) target collection filters (Content.unplaced body)
  | .assignment _ name e => .assignment (.after []) name e

def Content.unplaced : List Node → List Node
  | [] => []
  | node :: nodes => node.unplaced :: Content.unplaced nodes

def unplacedBranches : List (Expr × List Node) → List (Expr × List Node)
  | [] => []
  | (condition, content) :: branches => (condition, Content.unplaced content) :: unplacedBranches branches

end

def Override.unplaced (o : Override) : Override :=
  { position := .after [], name := o.name, content := Content.unplaced o.content }

def Document.unplaced : Document → Document
  | .root content => .root (Content.unplaced content)
  | .extending _ parent overrides => .extending (.after []) parent (overrides.map Override.unplaced)

/-! ## The documents that have a text -/

def Target.names : Target → List String
  | .value name => [name]
  | .pair keyName valueName => [keyName, valueName]

/-- What a node itself, without the contents inside it, needs to have a text. -/
def Node.Printable : Node → Prop
  | .text s => s ≠ ""
  | .output _ e => e.Printable
  | .block _ name _ => Scan.isName name = true
  | .inclusion _ _ => True
  | .conditional _ branches _ => branches ≠ [] ∧ ∀ b ∈ branches, b.1.Printable
  | .loop _ target collection filters _ =>
    (∀ name ∈ target.names, Scan.isName name = true) ∧ collection.Printable ∧
      ∀ f ∈ filters, f.Printable ∧ f.isStage = true
  | .assignment _ name e => Scan.isName name = true ∧ e.Printable

/-- Texts next to each other would be read as one. -/
inductive Content.Printable : Content → Prop
  | intro {content : Content} : content.IsChain (fun a b => a.isText = true → b.isText = false) →
      (∀ node ∈ content, node.Printable) →
        (∀ node ∈ content, ∀ part ∈ node.contents, Content.Printable part) → Content.Printable content

/-- No two blocks have the same name, at any depth. -/
def Document.Printable : Document → Prop
  | .root content => Content.Printable content ∧ (Content.blockNames content).Nodup
  | .extending _ _ overrides =>
    (∀ o ∈ overrides, Scan.isName o.name = true ∧ Content.Printable o.content) ∧
      (overrides.flatMap Grammar.overrideNames).Nodup

end TemplateEngine
