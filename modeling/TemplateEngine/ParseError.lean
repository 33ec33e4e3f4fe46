/-
  TemplateEngine.ParseError — why a source is not a template, and where.

  While reading, a failure is a `Fault`: its cause, what remained of the source at the
  place to blame, and the text to quote. Against the whole source a fault becomes a
  `ParseError` with a position.
-/

import TemplateEngine.Directive
import TemplateEngine.Position

namespace TemplateEngine

inductive ParseError.Kind where
  /-- A tag is open and its closing mark is missing. -/
  | missingEndCode (directive : Directive)
  /-- A directive is open and its end clause is missing. -/
  | missingEndClause (directive : Directive)
  | expectingExpression
  /-- A tag starts with a word that opens no directive. -/
  | unknownExpression
  /-- A template with a parent holds something else than blocks. -/
  | extendMayOnlyBlocks
  | invalidEscape
  | unterminatedString
  | duplicateBlock (name : String)
  /-- A closing clause stands where nothing is open. -/
  | unexpectedClause (word : String)
  | expected (what : String)
  deriving DecidableEq, Repr

def ParseError.Kind.message : ParseError.Kind → String
  | .missingEndCode d => "missing end of code for '" ++ d.word ++ "'"
  | .missingEndClause d => "missing end clause for '" ++ d.word ++ "'"
  | .expectingExpression => "expecting an expression"
  | .unknownExpression => "unknown expression"
  | .extendMayOnlyBlocks => "extending templates may only contain blocks"
  | .invalidEscape => "invalid escape sequence"
  | .unterminatedString => "unterminated string literal"
  | .duplicateBlock name => "duplicate block '" ++ name ++ "'"
  | .unexpectedClause word => "unexpected '" ++ word ++ "' without matching opener"
  | .expected what => "expected " ++ what

structure ParseError where
  kind : ParseError.Kind
  position : Position
  /-- Source text near the failure. -/
  snippet : String
  deriving DecidableEq, Repr

namespace ParseError

def message (e : ParseError) : String :=
  "Parse error at line " ++ toString e.position.line ++ ", column " ++ toString e.position.column
    ++ ": " ++ e.kind.message ++ " (near '" ++ e.snippet ++ "')"

/-- The failure at byte `offset` that quotes the source from byte `start` up to there. -/
def between (source : List Char) (kind : Kind) (offset start : Nat) : ParseError :=
  let read := Text.beforeByte offset source
  { kind
    position := Position.ofOffset source offset
    snippet := String.ofList (read.drop (Text.beforeByte start source).length) }

end ParseError

/-- A failure in the middle of a source. -/
structure Fault where
  kind : ParseError.Kind
  /-- What is left of the source from the place to blame. -/
  rest : List Char
  /-- The text to quote. -/
  quoted : List Char
  deriving DecidableEq, Repr

namespace Fault

/-- The failure at `rest` that quotes everything read since `start`. -/
def since (kind : ParseError.Kind) (start rest : List Char) : Fault :=
  { kind, rest, quoted := start.take (start.length - rest.length) }

def toParseError (source : List Char) (f : Fault) : ParseError :=
  { kind := f.kind
    position := Position.before source f.rest
    snippet := String.ofList f.quoted }

end Fault

end TemplateEngine
