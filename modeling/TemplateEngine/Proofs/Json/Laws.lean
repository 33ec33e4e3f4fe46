/-
  TemplateEngine.Proofs.Json.Laws — what is known of a JSON library.

  `DocumentText` is the grammar of JSON, as far as values without doubles need it: which
  texts there are of which data, with how many containers inside each other. Texts have no
  blanks, and of the numbers there are only those that are words. An object stands for its
  members by the bytes of their names, the last of a name counts.

  A library is known by its laws, those of its writer by the kinds of values
  (`Encoder.Lawful`), that of its reader by the grammar (`Decoder.Lawful`). The writer is
  free in how it escapes characters, and the reader in all other texts.
-/

import Mathlib.Data.List.Forall2
import TemplateEngine.Json.Data
import TemplateEngine.Json.Reader
import TemplateEngine.Proofs.Json.KeyOrder

namespace TemplateEngine.Json

/-! ## Texts of data -/

/-- How a character may be written inside a string. -/
inductive CharText : Char → List Char → Prop
  | plain {c : Char} : c ≠ '"' → c ≠ '\\' → 0x20 ≤ c.toNat → CharText c [c]
  | escape {letter c : Char} : simpleEscape? letter = some c → CharText c ['\\', letter]
  | code {digits : List Char} {c : Char} : Scan.hexCode? digits = some (c.toNat, []) →
      CharText c ('\\' :: 'u' :: digits)
  /-- Characters whose code is too large for four digits have two. -/
  | pair {digits digits' : List Char} {high low : Nat} {c : Char} :
      Scan.hexCode? digits = some (0xd800 + high, []) → high < 0x400 →
        Scan.hexCode? digits' = some (0xdc00 + low, []) → low < 0x400 →
          c.toNat = 0x10000 + high * 0x400 + low →
            CharText c ('\\' :: 'u' :: (digits ++ '\\' :: 'u' :: digits'))

def StringText (s : String) (text : List Char) : Prop :=
  ∃ pieces, List.Forall₂ CharText s.toList pieces ∧ text = '"' :: (pieces.flatten ++ ['"'])

/-- Texts of what is no container. -/
inductive ScalarText : List Char → Data → Prop
  | null : ScalarText "null".toList .null
  | bool (b : Bool) : ScalarText (if b then "true" else "false").toList (.bool b)
  | whole (n : Int64) : ScalarText (toString n.toInt).toList (.number (.ofWord n))
  | string {s : String} {text : List Char} : StringText s text → ScalarText text (.string s)

def MemberText (inside : List Char → Data → Prop) (text : List Char) (member : String × Data) : Prop :=
  ∃ name value, StringText member.1 name ∧ inside value member.2 ∧ text = name ++ ':' :: value

/-- Texts of containers, given the texts of what stands inside them. -/
inductive ContainerText (inside : List Char → Data → Prop) : List Char → Data → Prop
  | array {texts : List (List Char)} {items : List Data} : List.Forall₂ inside texts items →
      ContainerText inside ('[' :: ([','].intercalate texts ++ [']'])) (.array items)
  | object {texts : List (List Char)} {members : List (String × Data)} :
      List.Forall₂ (MemberText inside) texts members →
        ContainerText inside ('\x7b' :: ([','].intercalate texts ++ ['\x7d']))
          (.object (sortByKeyBytes (Table.ofEntries members)))

/-- Texts of data with at most so many containers inside each other. -/
def DocumentText : Nat → List Char → Data → Prop
  | 0, text, d => ScalarText text d
  | depth + 1, text, d => ScalarText text d ∨ ContainerText (DocumentText depth) text d

theorem documentText_of_scalar {text : List Char} {d : Data} (h : ScalarText text d) (depth : Nat) :
    DocumentText depth text d := by
  cases depth with
  | zero => exact h
  | succ depth => exact .inl h

/-! ## Laws -/

/-- Values are written without a name for their kind, containers with their parts in order and
    nothing but commas and colons between them. A character is written as the string of it. -/
structure Encoder.Lawful (encode : Encoder) : Prop where
  null : encode .null = .ok "null"
  bool (b : Bool) : encode (.bool b) = .ok (if b then "true" else "false")
  whole (n : Int64) : encode (.int n) = .ok (toString n.toInt)
  string (s : String) : ∃ text, encode (.string s) = .ok text ∧ StringText s text.toList
  char (c : Char) : encode (.char c) = encode (.string c.toString)
  list {items : List Value} {texts : List String} :
    List.Forall₂ (fun v text => encode v = .ok text) items texts →
      encode (.list items) = .ok ("[" ++ ",".intercalate texts ++ "]")
  map {entries : List (String × Value)} {texts : List String} :
    List.Forall₂ (fun e text => ∃ key value, encode (.string e.1) = .ok key ∧ encode e.2 = .ok value ∧
      text = key ++ ":" ++ value) entries texts →
      encode (.map entries) = .ok ("\x7b" ++ ",".intercalate texts ++ "\x7d")

/-- Every text of data is read as those, if it has less than 128 containers inside each other. -/
structure Decoder.Lawful (decode : Decoder) : Prop where
  reads {text : String} {d : Data} : DocumentText 127 text.toList d → decode text = some d

end TemplateEngine.Json
