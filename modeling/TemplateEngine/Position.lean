/-
  TemplateEngine.Position — a place in a source, as reported to its author.

  The byte offset is that of a character boundary. Lines are counted from one by line
  feeds, columns from one by characters since the last line feed.
-/

import TemplateEngine.Text.Extent

namespace TemplateEngine

structure Position where
  offset : Nat
  line : Nat
  column : Nat
  deriving DecidableEq, Repr

namespace Position

/-- The place reached once `read` has been read. -/
def after (read : List Char) : Position :=
  { offset := Text.utf8Size read
    line := read.count '\n' + 1
    column := (read.reverse.takeWhile (· != '\n')).length + 1 }

/-- The place `offset` bytes into the source: the end if it lies past it, and the start of
    the character it falls into. -/
def ofOffset (source : List Char) (offset : Nat) : Position :=
  after (Text.beforeByte offset source)

/-- The place in `source` from which `rest` is what remains. -/
def before (source rest : List Char) : Position :=
  ofOffset source (Text.utf8Size source - Text.utf8Size rest)

end Position

end TemplateEngine
