/-
  TemplateEngine.Config — the settings of an engine, and reading them from JSON.

  A JSON object sets what it names and leaves the rest at its default; what it names
  beyond that is ignored, but naming a setting twice is an error. A JSON array gives the
  settings in order and may stop early. Limits are whole numbers that fit an unsigned
  64-bit word, written without a point.
-/

import TemplateEngine.Decimal.Digits
import TemplateEngine.Json.Basic
import TemplateEngine.Number

namespace TemplateEngine

structure Config where
  /-- Whether a variable nobody defined is an error; otherwise it is null. -/
  strictVariables : Bool := true
  /-- How deep inclusions may nest. -/
  maxIncludeDepth : Nat := 50
  /-- How many parents a template may have above it. -/
  maxInheritanceDepth : Nat := 50
  /-- How many elements a range may have. -/
  maxRangeLength : Nat := 100000
  deriving DecidableEq, Repr

namespace Config

def ofFlag? : Json → Option Bool
  | .bool b => some b
  | _ => none

def ofLimit? : Json → Option Nat
  | .number n =>
    let value := Decimal.digitsValue n.whole
    if n.negative || n.places.isSome || n.exponent.isSome || value ≥ unsignedBound then none
    else some value
  | _ => none

/-- How each setting is named and taken from JSON, in order. -/
def setters : List (String × (Json → Config → Option Config)) :=
  [("strict_variables", fun j c => (ofFlag? j).map fun v => { c with strictVariables := v }),
    ("max_include_depth", fun j c => (ofLimit? j).map fun v => { c with maxIncludeDepth := v }),
    ("max_inheritance_depth", fun j c =>
      (ofLimit? j).map fun v => { c with maxInheritanceDepth := v }),
    ("max_range_length", fun j c => (ofLimit? j).map fun v => { c with maxRangeLength := v })]

/-- Sets one setting by its name. -/
def set? (name : String) (j : Json) (c : Config) : Option Config := do
  let setter ← setters.lookup name
  setter j c

def ofMembers? (members : List (String × Json)) : Option Config := do
  let known := members.filter fun m => (setters.lookup m.1).isSome
  if (known.map (·.1)).Nodup then known.foldlM (fun c m => set? m.1 m.2 c) {}
  else none

def ofItems? (items : List Json) : Option Config :=
  if items.length ≤ setters.length then
    (setters.zip items).foldlM (fun c s => s.1.2 s.2 c) {}
  else none

def ofJson? : Json → Option Config
  | .array items => ofItems? items
  | .object members => ofMembers? members
  | _ => none

/-- Reads a configuration with a reader of JSON. -/
def parse? (read : String → Option Json) (text : String) : Option Config := (read text).bind ofJson?

end Config

end TemplateEngine
