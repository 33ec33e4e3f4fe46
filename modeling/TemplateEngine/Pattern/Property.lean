/-
  TemplateEngine.Pattern.Property — sets of characters by the name of a Unicode property.

  Names are compared without case, spaces, hyphens, underscores, and an `is` in front. A
  name alone is a yes-or-no property, a general category or a script. Behind the name of a
  property with several values stands the name of one of them.
-/

import TemplateEngine.Pattern.Break

namespace TemplateEngine.Pattern

/-- A name as it is compared. -/
def plainName (name : List Char) : String :=
  let (isFirst, rest) :=
    match name with
    | 'i' :: 's' :: rest | 'I' :: 's' :: rest | 'i' :: 'S' :: rest | 'I' :: 'S' :: rest => (true, rest)
    | _ => (false, name)
  let plain := (rest.filter fun c => c.toNat < 128 && c != ' ' && c != '_' && c != '-').map Char.toLower
  -- `isc` is the name of a property of its own
  if isFirst && plain = ['c'] then "isc" else String.ofList plain

/-- The set a name alone stands for. -/
def property? (name : List Char) : Option CharSet :=
  let plain := plainName name
  byName? binaryProperties plain <|> byName? categories plain <|> script? plain

/-- The set of the characters for which a property has a value. -/
def propertyValue? (name value : List Char) : Option CharSet :=
  let plain := plainName value
  match plainName name with
  | "gc" | "generalcategory" => byName? categories plain
  | "sc" | "script" => script? plain
  | "scx" | "scriptextensions" => scriptUse? plain
  | "age" => version? plain
  | "gcb" | "graphemeclusterbreak" => byName? graphemeBreaks plain
  | "wb" | "wordbreak" => byName? wordBreaks plain
  | "sb" | "sentencebreak" => byName? sentenceBreaks plain
  | _ => none

end TemplateEngine.Pattern
