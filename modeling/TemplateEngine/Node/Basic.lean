/-
  TemplateEngine.Node.Basic — what a template consists of.

  Content is a list of nodes. A document either is content of its own, or names a parent
  and holds blocks to put in place of the parent's blocks of the same names.
-/

import TemplateEngine.Expr.Basic
import TemplateEngine.Position

namespace TemplateEngine

/-- The variables a loop binds: the value alone, or the key and the value. -/
inductive Target where
  | value (name : String)
  | pair (key value : String)
  deriving DecidableEq, Repr

inductive Node where
  | text (text : String)
  | output (position : Position) (expr : Expr)
  /-- Content under a name, which another template can replace. -/
  | block (position : Position) (name : String) (content : List Node)
  | inclusion (position : Position) (name : String)
  /-- The content of the first branch whose condition holds, or else `otherwise`. -/
  | conditional (position : Position) (branches : List (Expr × List Node))
      (otherwise : Option (List Node))
  /-- `body` for each member of a collection, once the filters have been applied to it. -/
  | loop (position : Position) (target : Target) (collection : Expr) (filters : List Expr)
      (body : List Node)
  | assignment (position : Position) (name : String) (expr : Expr)

abbrev Content := List Node

/-- A block of a template with a parent, to replace the parent's block of that name. -/
structure Override where
  position : Position
  name : String
  content : Content

inductive Document where
  | root (content : Content)
  | extending (position : Position) (parent : String) (overrides : List Override)

end TemplateEngine
