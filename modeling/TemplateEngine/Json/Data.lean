/-
  TemplateEngine.Json.Data — what a JSON library is asked for.

  It writes values as texts, without a name for their kind, and reads texts as data. Data
  become values here: a number that is a word is whole and any other a double, the members
  of an object become entries in the order in which the library gives them.
-/

import TemplateEngine.Value.Basic

namespace TemplateEngine

namespace Json

/-- A number that has been read: the word that it is, and the double next to it. -/
structure Number where
  word? : Option Int64
  double? : Option Double
  deriving DecidableEq, Repr

/-- What is read from a text. -/
inductive Data where
  | null
  | bool (b : Bool)
  | number (n : Number)
  | string (s : String)
  | array (items : List Data)
  | object (members : List (String × Data))
  deriving Inhabited

/-- Writes a value as JSON, or tells why there is no text of it. -/
abbrev Encoder := Value → Except String String

/-- Reads a JSON text. -/
abbrev Decoder := String → Option Data

def Number.ofWord (w : Int64) : Number := ⟨some w, some (Double.ofInt w.toInt)⟩

end Json

namespace Value

def ofNumber (n : Json.Number) : Value :=
  match n.word? with
  | some w => .int w
  | none => .float (n.double?.getD Double.nan)

mutual

/-- The value that data stand for. -/
def ofData : Json.Data → Value
  | .null => .null
  | .bool b => .bool b
  | .number n => ofNumber n
  | .string s => .string s
  | .array items => .list (ofItems items)
  | .object members => .map (Table.ofEntries (ofMembers members))

def ofItems : List Json.Data → List Value
  | [] => []
  | d :: rest => ofData d :: ofItems rest

def ofMembers : List (String × Json.Data) → List (String × Value)
  | [] => []
  | (name, d) :: rest => (name, ofData d) :: ofMembers rest

end

/-- The caller's variables: the members of an object, and none in other data. -/
def variablesOfData : Json.Data → Table Value
  | .object members => Table.ofEntries (ofMembers members)
  | _ => []

end Value

end TemplateEngine
