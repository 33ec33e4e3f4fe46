/-
  TemplateEngine.Template — compiled templates, ready to be rendered any number of times.
-/

import TemplateEngine.Node.Equality
import TemplateEngine.Render

namespace TemplateEngine

/-- Why a template could not be made. -/
inductive TemplateError where
  | parse (cause : ParseError)
  | compile (cause : CompileError)

structure Template where
  /-- The name it was loaded by. -/
  name : Option String := none
  content : Content

namespace Environment

/-- The template with a given name. -/
def template (env : Environment) (name : String) : Except TemplateError Template := do
  let content ← (env.compileNamed name).mapError .compile
  return { name := some name, content }

/-- The template with a given source. -/
def templateOfSource (env : Environment) (source : String) : Except TemplateError Template := do
  let document ← (Document.parse source).mapError .parse
  let content ← (env.compile document).mapError .compile
  return { content }

end Environment

namespace Template

/-- A template made without a loader. -/
def ofSource (source : String) : Except TemplateError Template :=
  ({} : Environment).templateOfSource source

/-- Renders with the caller's variables into a sink that takes `limit` bytes, if given. -/
def render (t : Template) (env : Environment) (caller : Table Value)
    (limit : Option Nat := none) : Outcome :=
  env.renderContent t.content { scope := { caller }, sink := { room := limit } }

/-- Whether two templates have the same name and the same content, positions included. -/
def same (a b : Template) : Bool := a.name == b.name && Content.same a.content b.content

end Template

end TemplateEngine
