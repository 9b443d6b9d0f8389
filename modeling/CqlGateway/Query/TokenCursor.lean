import CqlGateway.Query.Token

/-! A place in a row of tokens. It moves forward only, and stays at the last token once it is there.
-/

namespace CqlGateway

/-- A token of a row. -/
structure TokenCursor where
  tokens : List Token
  position : Nat
  position_lt : position < tokens.length

namespace TokenCursor

/-- The first token of a row that has one. -/
def ofTokens? (tokens : List Token) : Option TokenCursor :=
  if h : 0 < tokens.length then
    some {
      tokens := tokens
      position := 0
      position_lt := h
    }
  else
    none

/-- The tokens from the cursor on. -/
def ahead (cursor : TokenCursor) : List Token :=
  cursor.tokens.drop cursor.position

/-- The position of the last token. -/
def lastPosition (cursor : TokenCursor) : Nat :=
  cursor.tokens.length - 1

/-- The token so many places ahead, or the last one. -/
def peekAt (cursor : TokenCursor) (distance : Nat) : Token :=
  cursor.tokens.get {
    val := min (cursor.position + distance) cursor.lastPosition
    isLt := by
      have := cursor.position_lt
      unfold lastPosition
      omega
  }

/-- The token at the cursor. -/
def peek (cursor : TokenCursor) : Token :=
  cursor.peekAt 0

/-- The cursor at another position, or at the last token if there is none. -/
def moveTo (cursor : TokenCursor) (position : Nat) : TokenCursor :=
  {
    tokens := cursor.tokens
    position := min position cursor.lastPosition
    position_lt := by
      have := cursor.position_lt
      unfold lastPosition
      omega
  }

/-- The token at the cursor, and the cursor one place forward unless that token is the last one. -/
def advance (cursor : TokenCursor) : Token × TokenCursor :=
  if h : cursor.position < cursor.lastPosition then
    (
      cursor.peek,
      {
        tokens := cursor.tokens
        position := cursor.position + 1
        position_lt := by
          unfold lastPosition at h
          omega
      }
    )
  else
    (cursor.peek, cursor)

/-- Advances if the token at the cursor is of a kind. -/
def accept (cursor : TokenCursor) (kind : TokenKind) : Option Token × TokenCursor :=
  if cursor.peek.kind = kind then
    (some cursor.advance.1, cursor.advance.2)
  else
    (none, cursor)

/-- Moves past the next tokens if there are as many as kinds and they are of these kinds, or not at
all.
-/
def take (cursor : TokenCursor) (pattern : List TokenKind) : Option (List Token) × TokenCursor :=
  let behind := cursor.position + pattern.length
  if cursor.tokens.length < behind then
    (none, cursor)
  else
    let window := cursor.ahead.take pattern.length
    if (window.zip pattern).all fun (token, kind) => token.kind = kind then
      (some window, cursor.moveTo behind)
    else
      (none, cursor)

/-- True if there is a token for each of the kinds, of this kind, each one place behind the other.
-/
def lookingAt (cursor : TokenCursor) (pattern : List TokenKind) : Bool :=
  pattern.zipIdx.all fun (kind, distance) =>
    cursor.position + distance < cursor.tokens.length && (cursor.peekAt distance).kind = kind

/-- True at the end of the query. -/
def atEnd (cursor : TokenCursor) : Bool :=
  cursor.peek.kind = .endOfInput

end TokenCursor

end CqlGateway
