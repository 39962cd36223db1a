import Blockbook.Text.CodeRange

/-!
# Blanks

The characters that count as blank are those with the White_Space property. Trimming drops them
from the ends of a text and nothing else.
-/

namespace Blockbook.Text

/-- The code points with the White_Space property. -/
def blankRanges : CodeRanges :=
  [(0x9, 0xD), (0x20, 0x20), (0x85, 0x85), (0xA0, 0xA0), (0x1680, 0x1680), (0x2000, 0x200A),
   (0x2028, 0x2029), (0x202F, 0x202F), (0x205F, 0x205F), (0x3000, 0x3000)]

/-- Whether a character is white space. -/
def isBlank (c : Char) : Bool := blankRanges.contains c.toNat

/-- The text without the blanks in front. -/
def trimStart (s : Text) : Text := s.dropWhile isBlank

/-- The text without the blanks at its end. -/
def trimEnd (s : Text) : Text := (s.reverse.dropWhile isBlank).reverse

/-- The text without the blanks at both ends. -/
def trim (s : Text) : Text := trimEnd (trimStart s)

end Blockbook.Text
