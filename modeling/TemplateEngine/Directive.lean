/-
  TemplateEngine.Directive — the statements a template may hold, and the word that opens
  each of them.
-/

namespace TemplateEngine

inductive Directive where
  | output
  | conditional
  | loop
  | assignment
  | block
  | inclusion
  | inheritance
  | verbatim
  deriving DecidableEq, Repr

/-- The opening word, or the opening mark of an output tag. -/
def Directive.word : Directive → String
  | .output => "\x7b\x7b"
  | .conditional => "if"
  | .loop => "for"
  | .assignment => "set"
  | .block => "block"
  | .inclusion => "include"
  | .inheritance => "extends"
  | .verbatim => "verbatim"

end TemplateEngine
