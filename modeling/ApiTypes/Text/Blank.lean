import ApiTypes.Text.Ranges

/-!
# Blank characters

The blanks are Unicode white space together with the four separators
U+001C to U+001F. Stripping removes them from the ends of a text and leaves
those inside alone.
-/

set_option autoImplicit false

namespace ApiTypes.Text

def blankRanges : Ranges :=
  [(0x09, 0x0D), (0x1C, 0x20), (0x85, 0x85), (0xA0, 0xA0), (0x1680, 0x1680),
   (0x2000, 0x200A), (0x2028, 0x2029), (0x202F, 0x202F), (0x205F, 0x205F), (0x3000, 0x3000)]

def isBlank (c : Char) : Bool := blankRanges.contains c

def stripLeft (s : List Char) : List Char := s.dropWhile isBlank

def stripRight (s : List Char) : List Char := (s.reverse.dropWhile isBlank).reverse

def strip (s : List Char) : List Char := stripRight (stripLeft s)

end ApiTypes.Text
