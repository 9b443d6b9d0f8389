/-! Character classes that are written down as ranges of code points. -/

namespace CqlGateway.Text

/-- True of a character whose code point lies in one of the ranges, ends included. -/
def inRanges (ranges : List (Nat × Nat)) (character : Char) : Bool :=
  ranges.any fun range => range.1 ≤ character.toNat && character.toNat ≤ range.2

end CqlGateway.Text
