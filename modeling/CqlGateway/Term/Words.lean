import CqlGateway.Term.Piece

/-! The words of a term: what stands between white space that is not taken literally. -/

namespace CqlGateway.Term

/-- Puts a word in front of others; an empty one is none. -/
def consWord (word : List Piece) (words : List (List Piece)) : List (List Piece) :=
  if word.isEmpty then words else word :: words

/-- What stands in front of the first blank, and the words behind it. -/
def breakWords : List Piece → List Piece × List (List Piece)
  | [] => ([], [])
  | piece :: rest =>
      let (word, words) := breakWords rest
      if piece.isBlank then ([], consWord word words) else (piece :: word, words)

/-- The words of a row of pieces. -/
def wordPieces (parts : List Piece) : List (List Piece) :=
  consWord (breakWords parts).1 (breakWords parts).2

/-- The words of a value as they are written. -/
def words (value : String) : List String :=
  (wordPieces (pieces value.toList)).map fun word => String.ofList (written word)

/-- The words with one space between neighbours. -/
def joinWords (words : List String) : String :=
  String.intercalate " " words

end CqlGateway.Term
