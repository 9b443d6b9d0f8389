import CqlGateway.Compilation.Clause

/-! Turns two clauses that are joined by `prox` into one match of all their words. -/

namespace CqlGateway

/-- True of the relations that match words in their order. -/
def Relation.matchesWords : Relation → Bool
  | .comparison symbol => symbol = .equal || symbol = .identical
  | .named name => name = "adj" || name = "exact"

/-- The clause of a tree that is no more than a clause. -/
def QueryTree.clause? : QueryTree → Option SearchClause
  | .search clause => some clause
  | .boolean .. => none

/-- A condition of proximity queries. -/
def ensureProximity (holds : Bool) (fault : ProximityFault) : Except CompilationError Unit :=
  if holds then .ok () else .error (.invalidProximity fault)

namespace Catalog

/-- Two clauses in the engine's terms. They must be about the words of one text field. -/
def nearQuery (catalog : Catalog) (kind : QueryKind) (modifiers : List Modifier)
    (left right : SearchClause)
    : Except CompilationError EngineQuery := do
  let field ← catalog.resolve left.index
  let rightField ← catalog.resolve right.index
  catalog.usableField kind left field
  catalog.usableField kind right rightField
  ensureProximity (field.name = rightField.name)
    (.differentIndexes (catalog.indexName left) (catalog.indexName right))
  ensureProximity field.isTokenized (.notText (catalog.indexName left))
  ensureProximity left.relation.matchesWords (.wrongRelation left.relation)
  ensureProximity right.relation.matchesWords (.wrongRelation right.relation)
  let slop ← Modifier.slop modifiers
  let words := Term.words left.term ++ Term.words right.term
  ensureProximity (!words.isEmpty) .noWords
  return .leaf {
    field := field.name
    escaping := field.escaping
    value := .proximity (Term.joinWords words) slop
  }

/-- The operands of `prox` in the engine's terms. Both must be clauses. -/
def proximityQuery (catalog : Catalog) (kind : QueryKind) (modifiers : List Modifier)
    (left right : QueryTree)
    : Except CompilationError EngineQuery :=
  match left.clause?, right.clause? with
  | some left, some right => catalog.nearQuery kind modifiers left right
  | _, _ => .error (.invalidProximity .notClauses)

end Catalog

end CqlGateway
