import CqlGateway.Text.WhiteSpace

/-! A term as its author wrote it: a backslash takes the next character literally, whatever it is.
Everything that reads a term reads it as a row of pieces, so that all agree on which characters are
taken literally.
-/

namespace CqlGateway.Term

/-- A character on its own, a backslash with the character it takes literally, or a backslash with
none to take.
-/
inductive Piece where
  | bare (character : Char)
  | escaped (character : Char)
  | dangling
deriving DecidableEq

namespace Piece

/-- The characters that the piece is written with. -/
def written : Piece → List Char
  | .bare character => [character]
  | .escaped character => ['\\', character]
  | .dangling => ['\\']

/-- The character that the piece stands for. -/
def meant : Piece → Char
  | .bare character => character
  | .escaped character => character
  | .dangling => '\\'

/-- True of white space that is not taken literally. -/
def isBlank : Piece → Bool
  | .bare character => Text.isWhiteSpace character
  | _ => false

/-- True of a star or question mark that is not taken literally. -/
def isWildcard : Piece → Bool
  | .bare character => character = '*' || character = '?'
  | _ => false

end Piece

/-- The pieces of a term, in order. -/
def pieces : List Char → List Piece
  | [] => []
  | ['\\'] => [.dangling]
  | '\\' :: character :: rest => .escaped character :: pieces rest
  | character :: rest => .bare character :: pieces rest

/-- The characters that a row of pieces is written with. -/
def written (parts : List Piece) : List Char :=
  parts.flatMap Piece.written

/-- No character of a term is lost or moved. -/
@[simp]
theorem written_pieces (term : List Char) : written (pieces term) = term := by
  fun_induction pieces term with
  | case1 => rfl
  | case2 => rfl
  | case3 character rest ih => simp_all [written, Piece.written]
  | case4 character rest _ _ ih => simp_all [written, Piece.written]

end CqlGateway.Term
