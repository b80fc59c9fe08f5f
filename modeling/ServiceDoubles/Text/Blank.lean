import ServiceDoubles.Text.CodePoints

/-!
# ServiceDoubles.Text.Blank

Blanks: the characters of all scripts that only keep others apart.
-/

namespace ServiceDoubles.Text

/-- Spaces, tabs, line and page breaks. -/
def blanks : CodePoints :=
  [(0x09, 0x0D), (0x20, 0x20), (0x85, 0x85), (0xA0, 0xA0), (0x1680, 0x1680), (0x2000, 0x200A),
   (0x2028, 0x2029), (0x202F, 0x202F), (0x205F, 0x205F), (0x3000, 0x3000)]

/-- Whether `c` is a blank. -/
def isBlank (c : Char) : Bool := blanks.has c.toNat

/-- The text without blanks at its ends. -/
def trimmed (s : List Char) : List Char :=
  ((s.dropWhile isBlank).reverse.dropWhile isBlank).reverse

end ServiceDoubles.Text
