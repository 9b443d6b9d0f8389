import CqlGateway.Query.Display
import CqlGateway.Report.Basic
import CqlGateway.Text.Padding
import CqlGateway.Text.Quoted

/-! Shows the tokens of a query, one a line, and its tree, each level further in. -/

namespace CqlGateway

namespace Report

/-- A token with its offset and its kind. -/
def ofToken (token : Token) : Report :=
  [
    .colored .green (Text.padStart 4 (toString token.offset)),
    .plain "  ",
    .bold .cyan (Text.padEnd 10 token.kind.label),
    .plain ("  " ++ token.data.text ++ "\n")
  ]

def ofTokens (tokens : List Token) : Report :=
  tokens.flatMap ofToken

/-- An operator as a tree shows it. -/
def operatorTitle : BooleanOperator → String
  | .and => "AND"
  | .or => "OR"
  | .not => "NOT"
  | .prox => "PROX"

/-- A clause with its offset. -/
def ofClause (clause : SearchClause) : Report :=
  [
    .colored .blue (clause.index.getD "(default)"),
    .plain (" " ++ clause.relation.text ++ modifiersText clause.modifiers ++ " "),
    .colored .yellow (Text.quoted clause.term),
    .plain ("  @" ++ toString clause.offset ++ "\n")
  ]

/-- A tree whose root stands so many levels further in. -/
def ofTree (level : Nat) : QueryTree → Report
  | .search clause => .plain (Text.blanks (2 * level)) :: ofClause clause
  | .boolean operator modifiers left right =>
      [
        .plain (Text.blanks (2 * level)),
        .bold .magenta (operatorTitle operator),
        .plain (modifiersText modifiers ++ "\n")
      ]
        ++ ofTree (level + 1) left
        ++ ofTree (level + 1) right

/-- Sort keys under a title. -/
def ofSortKeys (keys : List SortKey) : Report :=
  .bold .magenta "sortby" :: .lineEnd :: keys.map fun key => .plain ("  " ++ key.text ++ "\n")

def ofQuery (query : CqlQuery) : Report :=
  ofTree 0 query.root ++ (query.sort.map ofSortKeys).getD []

end Report

end CqlGateway
