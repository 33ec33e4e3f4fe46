/-
  TemplateEngine.Grammar.Document — the grammar of whole sources.

  A source whose first tag, behind spacing only, names a parent may hold blocks and
  spacing after it and nothing else. Any other source is content from its first character.
-/

import TemplateEngine.Grammar.Content

namespace TemplateEngine.Grammar

open Scan

/-- The first line of a text. It ends before a line feed, and before a carriage return in
    front of that. -/
def firstLine (s : List Char) : List Char :=
  let line := s.takeWhile (· != '\n')
  if line.length < s.length && line.getLast? == some '\r' then line.dropLast else line

/-- A parent's name was given and something else than a block follows. -/
def onlyBlocks (s : List Char) : Fault :=
  { kind := .extendMayOnlyBlocks, rest := s, quoted := (firstLine s).take 40 }

/-- The blocks that fill the rest of a source, at most `n`. -/
def overrides (source : List Char) : Nat → List String → List Char → Except Fault (List Override)
  | 0, _, _ => .ok []
  | n + 1, names, s =>
    let s := skipSpacing s
    if s.isEmpty then .ok []
    else if tagWord? s = some "block" then do
      let first ← block source (content source) names s
      return first.found :: (← overrides source n first.names first.rest)
    else .error (onlyBlocks s)

def extending (source s : List Char) : Except Fault Document := do
  let rest ← openTag "extends" s
  let (parent, rest) ← templateName s rest
  let rest ← closeTag .inheritance s rest
  return .extending (Position.before source s) parent
    (← overrides source (rest.length + 1) [] rest)

def root (source : List Char) : Except Fault Document := do
  let read ← content source [] source
  if read.rest.isEmpty then return .root read.found
  else
    throw (.since (.unexpectedClause ((tagWord? read.rest).getD "")) read.rest
      (((mark? "\x7b%" read.rest).map skipSpacing).getD read.rest))

def document (source : List Char) : Except Fault Document :=
  let start := skipSpacing source
  if tagWord? start = some "extends" then extending source start else root source

end TemplateEngine.Grammar

namespace TemplateEngine

/-- Reads the source of a template. -/
def Document.parse (source : String) : Except ParseError Document :=
  (Grammar.document source.toList).mapError (Fault.toParseError source.toList)

end TemplateEngine
