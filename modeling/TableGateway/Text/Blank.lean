import TableGateway.Text.Ranges

/-!
# Blank characters

The white space of Unicode together with the four separators U+001C to U+001F, and the removal of
blanks around a text.
-/

namespace TableGateway.Text

/-- Closed ranges of the blank characters. -/
def blankRanges : List (Nat × Nat) :=
  [(0x9, 0xd), (0x1c, 0x20), (0x85, 0x85), (0xa0, 0xa0), (0x1680, 0x1680), (0x2000, 0x200a),
   (0x2028, 0x2029), (0x202f, 0x202f), (0x205f, 0x205f), (0x3000, 0x3000)]

/-- Whether the character is blank. -/
def isBlank (c : Char) : Bool :=
  inRanges blankRanges c.toNat

/-- The text without the blanks at its beginning. -/
def trimStart (s : List Char) : List Char :=
  s.dropWhile isBlank

/-- The text without the blanks at its beginning and at its end. -/
def trim (s : List Char) : List Char :=
  (trimStart (trimStart s).reverse).reverse

end TableGateway.Text
