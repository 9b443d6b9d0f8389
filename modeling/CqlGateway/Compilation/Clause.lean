import CqlGateway.Catalog.Basic
import CqlGateway.EngineQuery.Basic
import CqlGateway.Term.Words
import CqlGateway.Compilation.Modifier
import CqlGateway.Compilation.Value

/-! Turns a search clause into matches of its field. On a text field the words of a term are
matched; on other fields the term is one value.
-/

namespace CqlGateway

/-- The field of an index, and the index as messages name it. -/
def Catalog.resolve (catalog : Catalog) (index : Option String)
    : Except CompilationError EngineField :=
  let name := index.getD catalog.defaultIndex
  match catalog.field? name with
  | some field => .ok field
  | none => .error (.undefinedField name)

/-- The index of a clause as messages name it. -/
def Catalog.indexName (catalog : Catalog) (clause : SearchClause) : String :=
  clause.index.getD catalog.defaultIndex

/-- The field of a clause, which queries of the kind may use. -/
def Catalog.usableField (catalog : Catalog) (kind : QueryKind) (clause : SearchClause)
    (field : EngineField)
    : Except CompilationError Unit :=
  if field.usage.allows kind then
    .ok ()
  else
    .error (.wrongUsage (catalog.indexName clause) kind)

/-- What a clause is matched against. -/
structure ClauseTarget where
  /-- The index as messages name it. -/
  index : String
  field : EngineField
  escaping : Escaping

namespace ClauseTarget

def invalid {α : Type} (target : ClauseTarget) (value : String) (fault : ValueFault)
    : Except CompilationError α :=
  .error (.invalidValue target.index value fault)

/-- The value itself, if the field accepts it. -/
def check (target : ClauseTarget) (value : String) : Except CompilationError String :=
  match target.field.type.fault? value.toList with
  | some fault => target.invalid value fault
  | none => .ok value

/-- A match of one term. -/
def term (target : ClauseTarget) (value : String) : Except CompilationError EngineQuery :=
  (target.check value).map (.term target.field.name target.escaping)

/-- The words of a value, of which there is at least one. -/
def someWords (target : ClauseTarget) (value : String) : Except CompilationError (List String) :=
  match Term.words value with
  | [] => target.invalid value .emptyTerm
  | words => .ok words

/-- A match of the words one after the other, without regard to the type of the field. -/
def wordSequence (target : ClauseTarget) (words : List String) : EngineQuery :=
  .phrase target.field.name target.escaping (Term.joinWords words)

/-- The words in their order, or the whole value on a field without words. -/
def exact (target : ClauseTarget) (value : String) : Except CompilationError EngineQuery :=
  if target.field.isTokenized then
    (target.someWords value).map target.wordSequence
  else
    target.term (Text.trim value)

/-- A single word as a term; several as `exact` takes them. -/
def equality (target : ClauseTarget) (value : String) : Except CompilationError EngineQuery :=
  match Term.words value with
  | [] => target.invalid value .emptyTerm
  | [word] => target.term word
  | words =>
      if target.field.isTokenized then
        .ok (target.wordSequence words)
      else
        target.term (Text.trim value)

/-- A match for each word. -/
def eachWord (target : ClauseTarget) (value : String)
    : Except CompilationError (List EngineQuery) := do
  let words ← target.someWords value
  words.mapM target.term

/-- A value as the end of a range. -/
def bound (target : ClauseTarget) (value : String) : Except CompilationError String :=
  target.check (Text.trim value)

def range (target : ClauseTarget) (lower upper : Bound) : EngineQuery :=
  .range target.field.name lower upper

/-- The values from the first word to the second. -/
def within (target : ClauseTarget) (value : String) : Except CompilationError EngineQuery :=
  match Term.words value with
  | [low, high] => do
      let low ← target.bound low
      let high ← target.bound high
      return target.range (.inclusive low) (.inclusive high)
  | _ => target.invalid value .notTwoValues

def compare (target : ClauseTarget) (symbol : Comparison) (value : String)
    : Except CompilationError EngineQuery :=
  match symbol with
  | .equal => target.equality value
  | .identical => target.exact value
  | .different => (target.equality value).map .negation
  | .less => (target.bound value).map fun value => target.range .unbounded (.exclusive value)
  | .atMost => (target.bound value).map fun value => target.range .unbounded (.inclusive value)
  | .greater => (target.bound value).map fun value => target.range (.exclusive value) .unbounded
  | .atLeast => (target.bound value).map fun value => target.range (.inclusive value) .unbounded

def relate (target : ClauseTarget) (relation value : String)
    : Except CompilationError EngineQuery :=
  match relation with
  | "adj" | "exact" => target.exact value
  | "any" => (target.eachWord value).map .disjunction
  | "all" => (target.eachWord value).map .conjunction
  | "within" => target.within value
  | _ => .error (.unsupportedRelation target.index relation)

/-- What a relation and a term ask of the target. -/
def query (target : ClauseTarget) (relation : Relation) (value : String)
    : Except CompilationError EngineQuery :=
  match relation with
  | .comparison symbol => target.compare symbol value
  | .named name => target.relate name value

end ClauseTarget

namespace Catalog

/-- What a clause is matched against in a query of a kind. -/
def target (catalog : Catalog) (kind : QueryKind) (clause : SearchClause)
    : Except CompilationError ClauseTarget := do
  let field ← catalog.resolve clause.index
  catalog.usableField kind clause field
  let escaping ← Modifier.escaping field.escaping clause.modifiers
  return {
    index := catalog.indexName clause
    field := field
    escaping := escaping
  }

/-- A clause in the engine's terms. -/
def clauseQuery (catalog : Catalog) (kind : QueryKind) (clause : SearchClause)
    : Except CompilationError EngineQuery := do
  let target ← catalog.target kind clause
  target.query clause.relation clause.term

end Catalog

end CqlGateway
