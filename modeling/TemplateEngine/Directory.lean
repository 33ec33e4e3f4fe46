/-
  TemplateEngine.Directory — a tree of files that templates are loaded from.

  A file is known by the names that lead to it from the tree's root; the directories are
  those that the files need. A name is longest at 255 bytes, and a path at 4095; none
  holds a NUL. Whatever is there and is not a file of valid UTF-8 cannot be read.
-/

import TemplateEngine.Loader
import TemplateEngine.Path
import TemplateEngine.Text.Extent

namespace TemplateEngine

structure Directory where
  root : List Char
  /-- The names that lead to each file, and its bytes. -/
  files : List (List (List Char) × ByteArray)

namespace Directory

inductive Entry where
  | missing
  /-- The system refuses the path. -/
  | refused (cause : String)
  | directory
  | file (bytes : ByteArray)

def Entry.tooLong : Entry := .refused "File name too long (os error 36)"

def entry (d : Directory) (names : List (List Char)) : Entry :=
  match d.files.find? (·.1 == names) with
  | some (_, bytes) => .file bytes
  | none =>
    if names.isEmpty || d.files.any fun f => names.isPrefixOf f.1 then .directory else .missing

/-- Follows the parts of a path from a place in the tree. -/
def walk (d : Directory) (place : List (List Char)) : List (List Char) → Entry
  | [] => d.entry place
  | part :: rest =>
    match d.entry place with
    | .directory =>
      if part = [] ∨ part = ['.'] then walk d place rest
      else if Text.utf8Size part > 255 then .tooLong
      else walk d (place ++ [part]) rest
    | .file _ => .refused "Not a directory (os error 20)"
    | other => other

/-- What a path leads to. -/
def find (d : Directory) (path : List Char) : Entry :=
  if path.contains '\x00' then .refused "file name contained an unexpected NUL byte"
  else if Text.utf8Size path > 4095 then .tooLong
  else
    match Text.after? d.root path with
    | some [] => .directory
    | some ('/' :: rest) => d.walk [] (Path.parts rest)
    | _ => .missing

/-- Loads templates below the root, with a default extension if one is given. -/
def loader (d : Directory) (extension : Option (List Char)) : Loader := fun name =>
  match Path.resolve? d.root name.toList extension with
  | none => .error (.notFound name)
  | some path =>
    let unreadable (cause : String) : LoadError := .unreadable (String.ofList path) cause
    match d.find path with
    | .missing => .error (.notFound name)
    | .refused cause => .error (unreadable cause)
    | .directory => .error (unreadable "Is a directory (os error 21)")
    | .file bytes =>
      match String.fromUTF8? bytes with
      | some source => .ok source
      | none => .error (unreadable "stream did not contain valid UTF-8")

end Directory

end TemplateEngine
