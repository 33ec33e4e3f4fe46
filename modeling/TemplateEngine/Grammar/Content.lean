/-
  TemplateEngine.Grammar.Content — the grammar of text, output tags and statements.

  Content ends with the source or in front of a tag that opens with a closing word; what
  stands open there decides whether that word closes it. Text between tags is taken as it
  is, without comments; the inside of a verbatim statement joins the text around it.

  Block names are unique in a source: the names met so far travel along. As in the grammar
  of expressions, the number of characters left bounds both nesting and repetition.
-/

import TemplateEngine.Grammar.Expression
import TemplateEngine.Node.Basic

namespace TemplateEngine.Grammar

open Scan

/-- What has been read, the block names met so far, and what is left. -/
structure Read (α : Type) where
  found : α
  names : List String
  rest : List Char

abbrev Statement (α : Type) := List String → List Char → Except Fault (Read α)

/-- Words that end the content they stand in. -/
def closingWords : List String := ["endblock", "endfor", "endif", "elseif", "else"]

/-- What follows the opening mark and the word of a tag, and spacing. -/
def openTag? (word : String) (s : List Char) : Option (List Char) := do
  let rest ← mark? "\x7b%" s
  keyword? word (skipSpacing rest)

/-- The directive's tag has to open here. -/
def openTag (word : String) (s : List Char) : Except Fault (List Char) :=
  match openTag? word s with
  | some rest => .ok rest
  | none => .error (.since (.expected word) s (((mark? "\x7b%" s).map skipSpacing).getD s))

/-- The mark that closes a tag, for the directive whose first tag is at `start`. -/
def closeTag (directive : Directive) (start rest : List Char) : Except Fault (List Char) :=
  let rest := skipSpacing rest
  match mark? "%\x7d" rest with
  | some rest => .ok rest
  | none => .error (.since (.missingEndCode directive) start rest)

/-- The end clause of a directive. That of a block may repeat a name. -/
def endClause (word : String) (directive : Directive) (start rest : List Char) :
    Except Fault (List Char) := do
  if tagWord? rest ≠ some word then throw (.since (.missingEndClause directive) start rest)
  let rest ← openTag word rest
  let rest :=
    if directive = .block then ((identifier? rest).map (·.2)).getD rest else rest
  closeTag directive start rest

/-- Something of a directive that has to stand at `rest`. -/
def expected {α : Type} (what : String) (start rest : List Char) :
    Option (α × List Char) → Except Fault (α × List Char)
  | some found => .ok found
  | none => .error (.since (.expected what) start rest)

def templateName (start rest : List Char) : Except Fault (String × List Char) := do
  match ← string? rest with
  | (some name, rest) => return (name, rest)
  | (none, rest) => throw (.since (.expected "template name") start rest)

/-! ## Statements without content -/

def output (source : List Char) (s : List Char) : Except Fault (Node × List Char) := do
  let (e, rest) ← required expression (skipSpacing (((mark? "\x7b\x7b" s)).getD s))
  let rest := skipSpacing rest
  match mark? "\x7d\x7d" rest with
  | some rest => return (.output (Position.before source s) e, rest)
  | none => throw (.since (.missingEndCode .output) s rest)

def inclusion (source : List Char) (s : List Char) : Except Fault (Node × List Char) := do
  let rest ← openTag "include" s
  let (name, rest) ← templateName s rest
  let rest ← closeTag .inclusion s rest
  return (.inclusion (Position.before source s) name, rest)

def assignment (source : List Char) (s : List Char) : Except Fault (Node × List Char) := do
  let rest ← openTag "set" s
  let (name, rest) ← expected "variable name" s rest (identifier? rest)
  let rest ← requiredSymbol "=" s (skipSpacing rest)
  let (e, rest) ← required expression rest
  let rest ← closeTag .assignment s rest
  return (.assignment (Position.before source s) name e, rest)

/-- The text up to the tag that ends a verbatim statement. -/
def verbatimBody? : List Char → Option (List Char × List Char)
  | [] => none
  | c :: cs =>
    if tagWord? (c :: cs) = some "endverbatim" then some ([], c :: cs)
    else (verbatimBody? cs).map fun (body, rest) => (c :: body, rest)

def verbatim (s : List Char) : Except Fault (List Char × List Char) := do
  let rest ← openTag "verbatim" s
  let rest ← closeTag .verbatim s rest
  match verbatimBody? rest with
  | none => throw (.since (.missingEndClause .verbatim) s [])
  | some (body, rest) =>
    let rest ← openTag "endverbatim" rest
    let rest ← closeTag .verbatim s rest
    return (body, rest)

/-! ## Statements with content -/

def block (source : List Char) (content : Statement Content) : Statement Override := fun names s => do
  let named ← openTag "block" s
  let (name, rest) ← expected "block name" s named (identifier? named)
  let rest ← closeTag .block s rest
  if names.contains name then throw (.since (.duplicateBlock name) s named)
  let body ← content (name :: names) rest
  let rest ← endClause "endblock" .block s body.rest
  return ⟨⟨Position.before source s, name, body.found⟩, body.names, rest⟩

def loopVariable (start rest : List Char) : Except Fault (String × List Char) := do
  let (name, rest) ← expected "loop variable" start rest (identifier? rest)
  return (name, skipSpacing rest)

def loopTarget (start rest : List Char) : Except Fault (Target × List Char) := do
  let (first, rest) ← loopVariable start rest
  match symbol? "," rest with
  | none => return (.value first, rest)
  | some rest =>
    let (second, rest) ← loopVariable start rest
    return (.pair first second, rest)

/-- At most `n` filters of a loop. -/
def loopFilters (start : List Char) : Nat → List Char → Except Fault (List Expr × List Char)
  | 0, s => .ok ([], s)
  | n + 1, s =>
    match (symbol? "|" s).bind (keyword? "filter") with
    | none => .ok ([], s)
    | some rest => do
      match ← functionReference expression rest with
      | (none, rest) => throw (.since (.expected "filter function") start rest)
      | (some filter, rest) =>
        let (more, rest) ← loopFilters start n rest
        return (filter :: more, rest)

def loop (source : List Char) (content : Statement Content) : Statement Node := fun names s => do
  let rest ← openTag "for" s
  let (target, rest) ← loopTarget s rest
  let rest ← match keyword? "in" rest with
    | some rest => pure rest
    | none => throw (Fault.since (.expected "'in'") s rest)
  let (collection, rest) ← required expression rest
  let (filters, rest) ← loopFilters s rest.length rest
  let rest ← closeTag .loop s rest
  let body ← content names rest
  let rest ← endClause "endfor" .loop s body.rest
  return ⟨.loop (Position.before source s) target collection filters body.found, body.names, rest⟩

/-- A condition, the end of its tag, and the content behind it. -/
def branch (content : Statement Content) (start : List Char) : Statement (Expr × Content) :=
  fun names rest => do
    let (condition, rest) ← required expression rest
    let rest ← closeTag .conditional start rest
    let body ← content names rest
    return ⟨(condition, body.found), body.names, body.rest⟩

/-- At most `n` further branches. -/
def furtherBranches (content : Statement Content) (start : List Char) :
    Nat → Statement (List (Expr × Content))
  | 0, names, s => .ok ⟨[], names, s⟩
  | n + 1, names, s =>
    if tagWord? s = some "elseif" then do
      let first ← branch content start names (← openTag "elseif" s)
      let more ← furtherBranches content start n first.names first.rest
      return ⟨first.found :: more.found, more.names, more.rest⟩
    else .ok ⟨[], names, s⟩

def otherwise (content : Statement Content) (start : List Char) : Statement (Option Content) :=
  fun names s =>
    if tagWord? s = some "else" then do
      let rest ← openTag "else" s
      let rest ← closeTag .conditional start rest
      let body ← content names rest
      return ⟨some body.found, body.names, body.rest⟩
    else .ok ⟨none, names, s⟩

def conditional (source : List Char) (content : Statement Content) : Statement Node := fun names s => do
  let first ← branch content s names (← openTag "if" s)
  let more ← furtherBranches content s first.rest.length first.names first.rest
  let last ← otherwise content s more.names more.rest
  let rest ← endClause "endif" .conditional s last.rest
  return ⟨.conditional (Position.before source s) (first.found :: more.found) last.found,
    last.names, rest⟩

/-! ## Content -/

/-- The statement whose tag opens here. -/
def statement (source : List Char) (content : Statement Content) : Statement Node := fun names s => do
  let alone (read : Node × List Char) : Read Node := ⟨read.1, names, read.2⟩
  match tagWord? s with
  | some "block" =>
    let read ← block source content names s
    return ⟨.block read.found.position read.found.name read.found.content, read.names, read.rest⟩
  | some "include" => return alone (← inclusion source s)
  | some "for" => loop source content names s
  | some "if" => conditional source content names s
  | some "set" => return alone (← assignment source s)
  | _ => throw (.since .unknownExpression s (((mark? "\x7b%" s).map skipSpacing).getD s))

/-- Text ahead of a node, unless there is none. -/
def withText (text : List Char) (content : Content) : Content :=
  if text.isEmpty then content else .text (String.ofList text.reverse) :: content

/-- Content in a text of at most `n` characters, behind `text`, which is kept in reverse. -/
def contentUpTo (source : List Char) : Nat → List Char → Statement Content
  | 0, text, names, s => .ok ⟨withText text [], names, s⟩
  | n + 1, text, names, s =>
    match s with
    | [] => .ok ⟨withText text [], names, s⟩
    | c :: cs =>
      if (mark? "\x7b\x7b" s).isSome then do
        let (node, rest) ← output source s
        let more ← contentUpTo source n [] names rest
        return ⟨withText text (node :: more.found), more.names, more.rest⟩
      else if (mark? "\x7b%" s).isSome then
        match tagWord? s with
        | some "verbatim" => do
          let (body, rest) ← verbatim s
          contentUpTo source n (body.reverse ++ text) names rest
        | word =>
          if word.any closingWords.contains then .ok ⟨withText text [], names, s⟩
          else do
            let read ← statement source (contentUpTo source n []) names s
            let more ← contentUpTo source n [] read.names read.rest
            return ⟨withText text (read.found :: more.found), more.names, more.rest⟩
      else
        match comment? s with
        | some rest => contentUpTo source n text names rest
        | none => contentUpTo source n (c :: text) names cs

def content (source : List Char) : Statement Content := fun names s =>
  contentUpTo source s.length [] names s

end TemplateEngine.Grammar
