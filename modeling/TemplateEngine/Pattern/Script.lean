/-
  TemplateEngine.Pattern.Script — sets of characters by script and by version of Unicode.

  Every character has one script of its own. Of characters that several scripts share a
  table lists the scripts that use them, and the others are used by their own script alone.
  A version has the characters that it and the versions before it brought.
-/

import TemplateEngine.Pattern.CharSet
import TemplateEngine.Text.AgeTable
import TemplateEngine.Text.ScriptExtensionTable
import TemplateEngine.Text.ScriptTable

namespace TemplateEngine.Pattern

open CharSet

/-- Looks a row up by any of its names. -/
def byName? {α : Type} (rows : List (List String × α)) (name : String) : Option α :=
  (rows.find? (·.1.contains name)).map (·.2)

/-- The characters whose own script has a given name. -/
def script? (name : String) : Option CharSet := (byName? Text.scripts name).map ranges

/-- The characters that a script with a given name uses. -/
def scriptUse? (name : String) : Option CharSet := do
  let (names, own) ← Text.scripts.find? (·.1.contains name)
  let shared (rows : List (Nat × Nat × List String)) : CharSet := ranges (rows.map fun r => (r.1, r.2.1))
  return union (diff (ranges own) (shared Text.scriptExtensions))
    (shared (Text.scriptExtensions.filter fun r => names.any r.2.2.contains))

/-- The characters that a version of Unicode has. -/
def version? (name : String) : Option CharSet := do
  let index ← Text.versions.findIdx? (·.1.contains name)
  return unionOf ((Text.versions.take (index + 1)).map fun r => ranges r.2)

end TemplateEngine.Pattern
