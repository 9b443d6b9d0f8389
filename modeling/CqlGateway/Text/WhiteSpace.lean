import CqlGateway.Text.CharRange

/-! White space as Unicode defines it. It separates words and tokens, and is trimmed from values. -/

namespace CqlGateway.Text

/-- Ranges of the Unicode property `White_Space`. -/
def whiteSpaceRanges : List (Nat × Nat) :=
  [
    (0x9, 0xD), (0x20, 0x20), (0x85, 0x85), (0xA0, 0xA0), (0x1680, 0x1680), (0x2000, 0x200A),
    (0x2028, 0x2029), (0x202F, 0x202F), (0x205F, 0x205F), (0x3000, 0x3000)
  ]

/-- True of white space in any script. The zero width space is none. -/
def isWhiteSpace (character : Char) : Bool :=
  inRanges whiteSpaceRanges character

/-- The text without the white space at its ends. -/
def trimmed (text : List Char) : List Char :=
  ((text.dropWhile isWhiteSpace).reverse.dropWhile isWhiteSpace).reverse

/-- The text without the white space at its ends. -/
def trim (text : String) : String :=
  String.ofList (trimmed text.toList)

/-- True of the empty text and of white space alone. -/
def isBlank (text : List Char) : Bool :=
  text.all isWhiteSpace

end CqlGateway.Text
