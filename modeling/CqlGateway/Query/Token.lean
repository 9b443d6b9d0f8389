/-! The tokens of a query. A token keeps the words as they were written and the offset, counted in
characters, at which it starts.
-/

namespace CqlGateway

/-- The symbols that compare an index with a term. -/
inductive Comparison where
  | equal
  | identical
  | different
  | less
  | atMost
  | greater
  | atLeast
deriving DecidableEq, Repr

def Comparison.symbol : Comparison → String
  | .equal => "="
  | .identical => "=="
  | .different => "<>"
  | .less => "<"
  | .atMost => "<="
  | .greater => ">"
  | .atLeast => ">="

/-- The operators that join clauses. -/
inductive BooleanOperator where
  | and
  | or
  | not
  | prox
deriving DecidableEq, Repr

/-- The English word of an operator, whatever word the query used. -/
def BooleanOperator.word : BooleanOperator → String
  | .and => "and"
  | .or => "or"
  | .not => "not"
  | .prox => "prox"

inductive TokenKind where
  | openParen
  | closeParen
  | slash
  | comparison
  | operator
  | relation
  | term
  | sortBy
  | endOfInput
deriving DecidableEq, Repr

/-- The kind's name in messages. -/
def TokenKind.label : TokenKind → String
  | .openParen => "'('"
  | .closeParen => "')'"
  | .slash => "'/'"
  | .comparison => "comparison"
  | .operator => "boolean operator"
  | .relation => "relation"
  | .term => "term"
  | .sortBy => "sortby"
  | .endOfInput => "end of input"

inductive TokenData where
  | openParen
  | closeParen
  | slash
  | comparison (symbol : Comparison)
  /-- An operator with the word that was written for it. -/
  | operator (operator : BooleanOperator) (word : String)
  /-- A named relation in lower case. -/
  | relation (name : String)
  /-- A term as it was written and without its quotes; backslashes are kept in both. -/
  | term (raw value : String) (quoted : Bool)
  /-- The sort keyword as it was written. -/
  | sortBy (word : String)
  | endOfInput
deriving DecidableEq, Repr

structure Token where
  data : TokenData
  offset : Nat
deriving DecidableEq, Repr

namespace TokenData

def kind : TokenData → TokenKind
  | .openParen => .openParen
  | .closeParen => .closeParen
  | .slash => .slash
  | .comparison _ => .comparison
  | .operator _ _ => .operator
  | .relation _ => .relation
  | .term _ _ _ => .term
  | .sortBy _ => .sortBy
  | .endOfInput => .endOfInput

/-- The text of a token. It is the text of the query but for named relations, which are in lower
case.
-/
def text : TokenData → String
  | .openParen => "("
  | .closeParen => ")"
  | .slash => "/"
  | .comparison symbol => symbol.symbol
  | .operator _ word => word
  | .relation name => name
  | .term raw _ _ => raw
  | .sortBy word => word
  | .endOfInput => ""

/-- The value of a term; other tokens have none. -/
def termValue? : TokenData → Option String
  | .term _ value _ => some value
  | _ => none

/-- A token as messages name it. -/
def describe : TokenData → String
  | .endOfInput => TokenKind.endOfInput.label
  | data => data.kind.label ++ " '" ++ data.text ++ "'"

end TokenData

namespace Token

def kind (token : Token) : TokenKind :=
  token.data.kind

def describe (token : Token) : String :=
  token.data.describe

end Token

end CqlGateway
