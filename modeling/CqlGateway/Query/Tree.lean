import CqlGateway.Query.Token

/-! Queries as trees of search clauses, with the keys to sort by. -/

namespace CqlGateway

/-- How an index relates to a term: by a symbol, or by a relation's name in lower case. -/
inductive Relation where
  | comparison (symbol : Comparison)
  | named (name : String)
deriving DecidableEq, Repr

def Relation.text : Relation → String
  | .comparison symbol => symbol.symbol
  | .named name => name

/-- A name behind a slash, with or without a compared value. -/
structure Modifier where
  name : String
  comparison : Option (Comparison × String)
  offset : Nat
deriving DecidableEq, Repr

/-- A modifier without its slash. -/
def Modifier.text (modifier : Modifier) : String :=
  match modifier.comparison with
  | some (symbol, value) => modifier.name ++ symbol.symbol ++ value
  | none => modifier.name

/-- A term that is looked for in an index. Without an index the catalog's default one is meant. -/
structure SearchClause where
  index : Option String
  relation : Relation
  modifiers : List Modifier
  /-- The term without its quotes; backslashes are kept. -/
  term : String
  offset : Nat
deriving DecidableEq, Repr

/-- A term on its own. -/
def SearchClause.bare (term : String) (offset : Nat) : SearchClause :=
  {
    index := none
    relation := .comparison .equal
    modifiers := []
    term := term
    offset := offset
  }

inductive QueryTree where
  | search (clause : SearchClause)
  | boolean (operator : BooleanOperator) (modifiers : List Modifier) (left right : QueryTree)
deriving DecidableEq, Repr

/-- The clauses from left to right. -/
def QueryTree.clauses : QueryTree → List SearchClause
  | .search clause => [clause]
  | .boolean _ _ left right => left.clauses ++ right.clauses

structure SortKey where
  index : String
  modifiers : List Modifier
deriving DecidableEq, Repr

/-- A parsed query. The sort keys are there if the query has a sort part. -/
structure CqlQuery where
  root : QueryTree
  sort : Option (List SortKey)
deriving DecidableEq, Repr

end CqlGateway
