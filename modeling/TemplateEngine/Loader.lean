/-
  TemplateEngine.Loader — where the sources of named templates come from.
-/

import TemplateEngine.Table

namespace TemplateEngine

inductive LoadError where
  | notFound (name : String)
  /-- The source is there and cannot be read. -/
  | unreadable (path cause : String)
  deriving DecidableEq, Repr

def LoadError.message : LoadError → String
  | notFound name => "template not found: " ++ name
  | unreadable path cause => "cannot read " ++ path ++ ": " ++ cause

abbrev Loader := String → Except LoadError String

namespace Loader

/-- Finds nothing. -/
def empty : Loader := fun name => .error (.notFound name)

/-- Serves sources kept in memory. -/
def ofTable (sources : Table String) : Loader := fun name =>
  match sources.get? name with
  | some source => .ok source
  | none => .error (.notFound name)

end Loader

end TemplateEngine
