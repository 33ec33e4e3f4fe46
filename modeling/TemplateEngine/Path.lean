/-
  TemplateEngine.Path — where below a root directory a named template lies.

  A path is a text whose parts are set apart by slashes. Empty parts and parts that are a
  single dot say nothing, but for a dot in front. A name leads below the root if it is
  relative and none of its parts is `..`; any other name leads nowhere. A name without an
  extension gets the default one.
-/

namespace TemplateEngine.Path

inductive Component where
  | root
  | current
  | parent
  | normal (name : List Char)
  deriving DecidableEq, Repr

/-- The parts between slashes, at least one. -/
def parts : List Char → List (List Char)
  | [] => [[]]
  | c :: cs =>
    if c = '/' then [] :: parts cs
    else
      match parts cs with
      | [] => [[c]]
      | p :: ps => (c :: p) :: ps

/-- What a part says, unless it says nothing. -/
def named? (part : List Char) : Option Component :=
  if part = [] ∨ part = ['.'] then none
  else if part = ['.', '.'] then some .parent
  else some (.normal part)

def components (path : List Char) : List Component :=
  match path with
  | '/' :: rest => .root :: (parts rest).filterMap named?
  | _ =>
    (if (parts path).head? = some ['.'] then [.current] else []) ++ (parts path).filterMap named?

/-- Whether a name leads below the directory it is looked up in. -/
def staysBelow (name : List Char) : Bool :=
  (components name).all fun
    | .normal _ | .current => true
    | .root | .parent => false

/-- The last component, if it is a name. -/
def fileName? (path : List Char) : Option (List Char) :=
  match (components path).getLast? with
  | some (.normal name) => some name
  | _ => none

/-- A file name around its last dot, unless that is missing or the first character. -/
def splitExtension? (name : List Char) : Option (List Char × List Char) :=
  match name.reverse.dropWhile (· != '.') with
  | '.' :: c :: stem => some ((c :: stem).reverse, (name.reverse.takeWhile (· != '.')).reverse)
  | _ => none

def hasExtension (path : List Char) : Bool := ((fileName? path).bind splitExtension?).isSome

/-- A path in reverse without the parts at its end that say nothing. -/
def dropSilent : List Char → List Char
  | '/' :: rest => dropSilent rest
  | '.' :: '/' :: rest => dropSilent rest
  | path => path

/-- Puts an extension in place of the file name's own, if the path ends in a file name. -/
def withExtension (path extension : List Char) : List Char :=
  match fileName? path with
  | none => path
  | some name =>
    let whole := (dropSilent path.reverse).reverse
    let stem := ((splitExtension? name).map (·.1)).getD name
    whole.take (whole.length - name.length) ++ stem ++ '.' :: extension

/-- A relative path from a root. -/
def join (root relative : List Char) : List Char :=
  if root.isEmpty || root.getLast? == some '/' then root ++ relative else root ++ '/' :: relative

/-- The path of a named template, unless the name leads out of the root. -/
def resolve? (root name : List Char) (extension : Option (List Char)) : Option (List Char) :=
  if staysBelow name then
    let path := join root name
    match extension with
    | some ext => if hasExtension name || ext.isEmpty then some path else some (withExtension path ext)
    | none => some path
  else none

end TemplateEngine.Path
