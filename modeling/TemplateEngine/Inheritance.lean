/-
  TemplateEngine.Inheritance — from a document to the content that is rendered.

  A document with a parent is its parent's content with blocks replaced. The parent is
  compiled first, which may need a parent of its own, up to a limit that also ends a
  circle of parents. Overriding keeps the block itself, so that a document further down
  can override it again.
-/

import TemplateEngine.Environment
import TemplateEngine.Grammar.Document

namespace TemplateEngine

inductive CompileError where
  | load (name : String) (cause : LoadError)
  | parse (name : String) (cause : ParseError)
  | recursiveInheritance (name : String) (maxDepth : Nat)
  deriving DecidableEq, Repr

def CompileError.message : CompileError → String
  | load name cause => "Cannot load template '" ++ name ++ "': " ++ cause.message
  | parse name cause => "Cannot parse template '" ++ name ++ "': " ++ cause.message
  | recursiveInheritance name maxDepth =>
    "Recursive template inheritance detected (depth > " ++ toString maxDepth ++ "): " ++ name

/-! ## Replacing blocks -/

mutual

/-- Gives the blocks of one name new content, and counts them. Blocks inside a replaced
    one are gone with its old content and are not counted. -/
def Node.replaceBlock (name : String) (replacement : Content) : Node → Node × Nat
  | .block position blockName content =>
    if blockName = name then (.block position blockName replacement, 1)
    else
      let (content, count) := replaceBlocks name replacement content
      (.block position blockName content, count)
  | .conditional position branches otherwise =>
    let (branches, count) := replaceInBranches name replacement branches
    match otherwise with
    | none => (.conditional position branches none, count)
    | some content =>
      let (content, more) := replaceBlocks name replacement content
      (.conditional position branches (some content), count + more)
  | .loop position target collection filters body =>
    let (body, count) := replaceBlocks name replacement body
    (.loop position target collection filters body, count)
  | other => (other, 0)

def replaceBlocks (name : String) (replacement : Content) : Content → Content × Nat
  | [] => ([], 0)
  | node :: rest =>
    let (node, count) := node.replaceBlock name replacement
    let (rest, more) := replaceBlocks name replacement rest
    (node :: rest, count + more)

def replaceInBranches (name : String) (replacement : Content) :
    List (Expr × Content) → List (Expr × Content) × Nat
  | [] => ([], 0)
  | (condition, content) :: rest =>
    let (content, count) := replaceBlocks name replacement content
    let (rest, more) := replaceInBranches name replacement rest
    ((condition, content) :: rest, count + more)

end

/-- Replaces blocks by one override after the other. -/
def Content.override (content : Content) (overrides : List Override) : Content :=
  overrides.foldl (fun c o => (replaceBlocks o.name o.content c).1) content

/-! ## Compiling -/

namespace Environment

def loadDocument (env : Environment) (name : String) : Except CompileError Document := do
  let source ← (env.load name).mapError (.load name)
  (Document.parse source).mapError (.parse name)

/-- Compiles a document that may have up to `n` parents above it. -/
def compileUpTo (env : Environment) : Nat → Document → Except CompileError Content
  | _, .root content => .ok content
  | 0, .extending _ parent _ =>
    .error (.recursiveInheritance parent env.config.maxInheritanceDepth)
  | n + 1, .extending _ parent overrides => do
    let document ← env.loadDocument parent
    let content ← compileUpTo env n document
    return Content.override content overrides

def compile (env : Environment) (document : Document) : Except CompileError Content :=
  env.compileUpTo env.config.maxInheritanceDepth document

/-- Loads and compiles a template by its name. -/
def compileNamed (env : Environment) (name : String) : Except CompileError Content := do
  env.compile (← env.loadDocument name)

end Environment

end TemplateEngine
