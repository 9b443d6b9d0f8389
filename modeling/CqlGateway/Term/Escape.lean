import CqlGateway.Term.Piece

/-! Writes terms into the engine's query language, where a character with a meaning of its own needs
a backslash. What was taken literally stays literal; a bare star or question mark is a wildcard
where the field allows it.
-/

namespace CqlGateway

/-- Whether bare stars and question marks are wildcards. -/
inductive Escaping where
  /-- They are; everything else is literal. -/
  | masked
  /-- Every character is literal. -/
  | literal
deriving DecidableEq, Repr

namespace Term

/-- The characters with a meaning in the engine's query language. -/
def specialChars : List Char :=
  [
    '+', '-', '&', '|', '!', '(', ')', '\x7b', '\x7d', '[', ']', '^', '"', '~', '*', '?', ':',
    '\\', '/'
  ]

/-- True of a character that needs a backslash to be literal. -/
def isSpecial (character : Char) : Bool :=
  specialChars.contains character || Text.isWhiteSpace character

/-- A character that the engine takes literally. -/
def literalChar (character : Char) : List Char :=
  if isSpecial character then ['\\', character] else [character]

/-- A piece as part of a single term. -/
def escapePiece (escaping : Escaping) (piece : Piece) : List Char :=
  if piece.isWildcard && escaping = .masked then piece.written else literalChar piece.meant

/-- A value as a single term of the engine's query. -/
def escape (escaping : Escaping) (value : String) : String :=
  String.ofList ((pieces value.toList).flatMap (escapePiece escaping))

/-- A character between quotes, where only quotes and backslashes have a meaning. -/
def phraseChar (character : Char) : List Char :=
  if character = '"' || character = '\\' then ['\\', character] else [character]

/-- A value as the inside of a quoted phrase. -/
def escapePhrase (value : String) : String :=
  String.ofList ((pieces value.toList).flatMap fun piece => phraseChar piece.meant)

/-- The characters that a value stands for. -/
def decode (value : String) : String :=
  String.ofList ((pieces value.toList).map Piece.meant)

/-- True of a value with a wildcard in it. -/
def hasWildcard (value : String) : Bool :=
  (pieces value.toList).any Piece.isWildcard

/-- A piece between double quotes of a query: a bare quote needs a backslash, all else stays as it
is written.
-/
def quotedPiece : Piece → List Char
  | .bare '"' => ['\\', '"']
  | piece => piece.written

/-- A value between double quotes, as a query may hold it. -/
def quoted (value : String) : String :=
  "\"" ++ String.ofList ((pieces value.toList).flatMap quotedPiece) ++ "\""

end Term

end CqlGateway
