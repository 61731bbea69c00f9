/-
  MediaGraph.Text.Blank — blank characters and the text between them.

  Blank is what the Unicode standard gives the property White_Space: 25 code
  points, listed here by range. `trim` takes the blanks off both ends.
-/

import MediaGraph.Text.CharRange

namespace MediaGraph.Text

def blankRanges : List CharRange :=
  [(0x09, 0x0D), (0x20, 0x20), (0x85, 0x85), (0xA0, 0xA0), (0x1680, 0x1680), (0x2000, 0x200A),
    (0x2028, 0x2029), (0x202F, 0x202F), (0x205F, 0x205F), (0x3000, 0x3000)]

def isBlank (c : Char) : Bool := inRanges blankRanges c

/-- Blanks come off the front, then off the back. -/
def trim (cs : List Char) : List Char := ((cs.dropWhile isBlank).reverse.dropWhile isBlank).reverse

example : (blankRanges.map fun r => r.2 + 1 - r.1).sum = 25 := by decide

end MediaGraph.Text
