import RecordSql.Text.CharSet

/-!
# Blank characters

The characters with the property White_Space, and the text without them at its ends.

* `isBlank`: the property.
* `trim`: text without leading and trailing blanks.
-/

namespace RecordSql.Text

/-- The 25 code points with the property White_Space. -/
def blanks : CharSet := .ofRanges
  [(0x0009, 0x000D), (0x0020, 0x0020), (0x0085, 0x0085), (0x00A0, 0x00A0), (0x1680, 0x1680),
   (0x2000, 0x200A), (0x2028, 0x2029), (0x202F, 0x202F), (0x205F, 0x205F), (0x3000, 0x3000)]

def isBlank (c : Char) : Bool := blanks.has c

/-- The characters from the first one that is not blank. -/
def trimStart (s : List Char) : List Char := s.dropWhile isBlank

/-- The characters without the blanks at either end. -/
def trim (s : List Char) : List Char := (trimStart (trimStart s).reverse).reverse

end RecordSql.Text
