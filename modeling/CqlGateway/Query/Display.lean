import CqlGateway.Query.Tree
import CqlGateway.Term.Escape

/-! Writes a query in its plainest form: every term in double quotes, every operator in English and
in parentheses with its operands.
-/

namespace CqlGateway

/-- Modifiers, each behind a slash. -/
def modifiersText (modifiers : List Modifier) : String :=
  String.join (modifiers.map fun modifier => "/" ++ modifier.text)

def SearchClause.text (clause : SearchClause) : String :=
  match clause.index with
  | some index =>
      index ++ " " ++ clause.relation.text ++ modifiersText clause.modifiers ++ " "
        ++ Term.quoted clause.term
  | none => Term.quoted clause.term

def QueryTree.text : QueryTree → String
  | .search clause => clause.text
  | .boolean operator modifiers left right =>
      "(" ++ left.text ++ " " ++ operator.word ++ modifiersText modifiers ++ " " ++ right.text
        ++ ")"

def SortKey.text (key : SortKey) : String :=
  key.index ++ modifiersText key.modifiers

def CqlQuery.text (query : CqlQuery) : String :=
  match query.sort with
  | some keys => query.root.text ++ " sortby" ++ String.join (keys.map fun key => " " ++ key.text)
  | none => query.root.text

end CqlGateway
