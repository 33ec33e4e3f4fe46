/-
  TemplateEngine.Json.Basic — JSON documents.

  Numbers are kept as they are written, and objects keep their members in order with
  repeated names, so that each reader of a document decides what they mean.
-/

namespace TemplateEngine

/-- A number as written: its sign, the digits ahead of the point, those behind it, and the
    exponent with its sign. -/
structure Numeral where
  negative : Bool
  whole : List Char
  places : Option (List Char)
  exponent : Option (Bool × List Char)
  deriving DecidableEq, Repr

inductive Json where
  | null
  | bool (b : Bool)
  | number (n : Numeral)
  | string (s : String)
  | array (items : List Json)
  | object (members : List (String × Json))
  deriving Inhabited

end TemplateEngine
