import PageSync.Text.Ranges

/-!
# Text/Blank — white space in the sense of Unicode

The information separators U+001C to U+001F count as blank; the zero width space does not.
-/

namespace PageSync.Text

/-- The code points that are white space. -/
def blankRanges : List (Nat × Nat) :=
  [
    (0x9, 0xD), (0x1C, 0x20), (0x85, 0x85), (0xA0, 0xA0), (0x1680, 0x1680), (0x2000, 0x200A),
    (0x2028, 0x2029), (0x202F, 0x202F), (0x205F, 0x205F), (0x3000, 0x3000)]

/-- White space in the sense of Unicode. -/
def isBlank (c : Char) : Bool :=
  inRanges blankRanges c.toNat

/-- The text without the blanks at its start. -/
def trimStart (cs : List Char) : List Char :=
  cs.dropWhile isBlank

/-- The text without the blanks at its end. -/
def trimEnd (cs : List Char) : List Char :=
  (cs.reverse.dropWhile isBlank).reverse

/-- The text without the blanks at its ends. -/
def trim (cs : List Char) : List Char :=
  trimEnd (trimStart cs)

/-- The pieces of a text between the characters that satisfy `p`, empty pieces left out. -/
def splitWhere (p : Char → Bool) (cs : List Char) : List (List Char) :=
  (cs.splitBy fun a b => p a == p b).filter fun piece => piece.all fun c => !p c

/-- The words of a text: its longest pieces free of blanks, in order. -/
def words (cs : List Char) : List (List Char) :=
  splitWhere isBlank cs

end PageSync.Text
