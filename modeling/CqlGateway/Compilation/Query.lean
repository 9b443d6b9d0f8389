import CqlGateway.EngineQuery.Text
import CqlGateway.Profile.Basic
import CqlGateway.Compilation.Proximity

/-! Turns a whole query into the engine's terms and joins it with the filter of a profile. -/

namespace CqlGateway

/-- A field to sort by. -/
structure SortField where
  field : String
  descending : Bool
deriving DecidableEq, Repr

/-- A query for the engine, with the profile's filter in it. -/
structure CompiledQuery where
  kind : QueryKind
  query : EngineQuery
  sort : List SortField

/-- A sort field as the engine takes it. -/
def SortField.text (sortField : SortField) : String :=
  sortField.field ++ " " ++ if sortField.descending then "desc" else "asc"

namespace CompiledQuery

/-- The query in the engine's language. -/
def text (compiled : CompiledQuery) : String :=
  compiled.query.text

/-- The order that the engine is asked for, if there is one. -/
def sortText? (compiled : CompiledQuery) : Option String :=
  if compiled.sort.isEmpty then
    none
  else
    some (String.intercalate "," (compiled.sort.map SortField.text))

end CompiledQuery

namespace Catalog

/-- The user's query in the engine's terms, without a filter. -/
def engineQuery (catalog : Catalog) (kind : QueryKind)
    : QueryTree → Except CompilationError EngineQuery
  | .search clause => catalog.clauseQuery kind clause
  | .boolean .prox modifiers left right => catalog.proximityQuery kind modifiers left right
  | .boolean .and _ left right => do
      let left ← catalog.engineQuery kind left
      let right ← catalog.engineQuery kind right
      return .conjunction [left, right]
  | .boolean .or _ left right => do
      let left ← catalog.engineQuery kind left
      let right ← catalog.engineQuery kind right
      return .disjunction [left, right]
  | .boolean .not _ left right => do
      let left ← catalog.engineQuery kind left
      let right ← catalog.engineQuery kind right
      return .conjunction [left, .negation right]

/-- The kind behind a clause, given the one before it: a field that searches may not use makes a
relation lookup.
-/
def kindAfter (catalog : Catalog) (kind : QueryKind) (clause : SearchClause)
    : Except CompilationError QueryKind :=
  (catalog.resolve clause.index).map fun field =>
    if field.usage.allows .search then kind else .relation

/-- The kind of a query, by the fields that it names. All of them must be known. -/
def kindOf (catalog : Catalog) (root : QueryTree) : Except CompilationError QueryKind :=
  root.clauses.foldlM catalog.kindAfter .search

/-- The field of a sort key. -/
def sortField (catalog : Catalog) (key : SortKey) : Except CompilationError SortField := do
  let field ← catalog.resolve (some key.index)
  let descending ← Modifier.descending key.modifiers
  return {
    field := field.name
    descending := descending
  }

/-- A query of a given kind, with the profile's filter as its last operand. -/
def compileAs (catalog : Catalog) (profile : Profile) (kind : QueryKind) (query : CqlQuery)
    : Except CompilationError CompiledQuery := do
  let user ← catalog.engineQuery kind query.root
  let sort ← (query.sort.getD []).mapM catalog.sortField
  return {
    kind := kind
    query := .conjunction [user, profile.filter kind]
    sort := sort
  }

/-- A query of the kind that its fields make it. -/
def compile (catalog : Catalog) (profile : Profile) (query : CqlQuery)
    : Except CompilationError CompiledQuery := do
  let kind ← catalog.kindOf query.root
  catalog.compileAs profile kind query

end Catalog

end CqlGateway
