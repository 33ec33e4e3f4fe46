/-
  TemplateEngine.Text.Blank — white space by Unicode, and texts without it at their ends.
-/

import TemplateEngine.Text.Ranges

namespace TemplateEngine.Text

/-- The characters with the property White_Space. -/
def blankRanges : List (Nat × Nat) :=
  [(0x09, 0x0d), (0x20, 0x20), (0x85, 0x85), (0xa0, 0xa0), (0x1680, 0x1680), (0x2000, 0x200a),
    (0x2028, 0x2029), (0x202f, 0x202f), (0x205f, 0x205f), (0x3000, 0x3000)]

def isBlank (c : Char) : Bool := inRanges blankRanges c

def trim (s : List Char) : List Char := ((s.dropWhile isBlank).reverse.dropWhile isBlank).reverse

end TemplateEngine.Text
