/-
  TemplateEngine.Text.Quoted — texts and characters written so that each can be told apart
  at sight.

  They stand in double or single quotes. That quote and the backslash are escaped, as are
  controls, marks that would join the character before them, and everything else that
  shows nothing by itself: those by their code.
-/

import TemplateEngine.Text.PrintTable
import TemplateEngine.Text.Ranges

namespace TemplateEngine.Text

def codeEscape (c : Char) : List Char :=
  "\\u\x7b".toList ++ Nat.toDigits 16 c.toNat ++ ['}']

def escapedIn (quote c : Char) : List Char :=
  if c = quote ∨ c = '\\' then ['\\', c]
  else if c = '\x00' then ['\\', '0']
  else if c = '\t' then ['\\', 't']
  else if c = '\r' then ['\\', 'r']
  else if c = '\n' then ['\\', 'n']
  else if inRanges extendingRanges c || inRanges unprintableRanges c then codeEscape c
  else [c]

def quoted (s : String) : String := "\"" ++ String.ofList (s.toList.flatMap (escapedIn '"')) ++ "\""

def quotedChar (c : Char) : String := "'" ++ String.ofList (escapedIn '\'' c) ++ "'"

end TemplateEngine.Text
