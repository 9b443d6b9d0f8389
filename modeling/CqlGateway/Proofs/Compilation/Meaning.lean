import CqlGateway.Compilation.Query

/-! What a query asks for, said without the engine: which field matches each of its parts stands
for, and how the truth of the query depends on theirs.
-/

namespace CqlGateway

-----------------------------------------------------------------------------------------
-- Modifiers
-----------------------------------------------------------------------------------------

namespace Modifier

/-- The escaping that a modifier chooses, if it does. -/
def chosenEscaping? (modifier : Modifier) : Option Escaping :=
  match Text.lowercase modifier.name with
  | "cql.unmasked" | "unmasked" => some .literal
  | "cql.masked" | "masked" => some .masked
  | _ => none

/-- The last choice among modifiers, or that of the field. -/
def lastEscaping (field : Escaping) (modifiers : List Modifier) : Escaping :=
  (modifiers.reverse.findSome? chosenEscaping?).getD field

/-- The slop that a distance chooses: a distance below a number is at most one less. -/
def chosenSlop? (modifier : Modifier) : Option Nat :=
  match Text.lowercase modifier.name with
  | "distance" | "prox.distance" =>
      modifier.comparison.bind fun (symbol, value) =>
        (readUnsigned? distanceLimit value.toList).map fun distance =>
          if symbol = .less then distance - 1 else distance
  | _ => none

/-- The slop of the last distance among modifiers, or the standard one. -/
def lastSlop (modifiers : List Modifier) : Nat :=
  (modifiers.reverse.findSome? chosenSlop?).getD standardSlop

end Modifier

-----------------------------------------------------------------------------------------
-- Clauses
-----------------------------------------------------------------------------------------

namespace ClauseTarget

/-- The match of one word or value. -/
def termMatch (target : ClauseTarget) (value : String) : FieldMatch :=
  {
    field := target.field.name
    escaping := target.escaping
    value := .term value
  }

/-- The match of words one after the other. -/
def phraseMatch (target : ClauseTarget) (words : List String) : FieldMatch :=
  {
    field := target.field.name
    escaping := target.escaping
    value := .phrase (Term.joinWords words)
  }

/-- The match of the values between two bounds. -/
def rangeMatch (target : ClauseTarget) (lower upper : Bound) : FieldMatch :=
  {
    field := target.field.name
    escaping := .literal
    value := .range lower upper
  }

/-- The match of a term as a whole: of its words in order, or of one value on a field without words.
-/
def wholeMatch (target : ClauseTarget) (term : String) : FieldMatch :=
  if target.field.isTokenized then
    target.phraseMatch (Term.words term)
  else
    target.termMatch (Text.trim term)

/-- The match of a term that is compared by `=`: a single word is matched on its own. -/
def equalMatch (target : ClauseTarget) (term : String) : FieldMatch :=
  match Term.words term with
  | [word] => target.termMatch word
  | _ => target.wholeMatch term

/-- The field matches of a relation and a term, in the order of the words. -/
def fieldMatches (target : ClauseTarget) (relation : Relation) (term : String) : List FieldMatch :=
  match relation with
  | .comparison .equal => [target.equalMatch term]
  | .comparison .different => [target.equalMatch term]
  | .comparison .identical => [target.wholeMatch term]
  | .comparison .less => [target.rangeMatch .unbounded (.exclusive (Text.trim term))]
  | .comparison .atMost => [target.rangeMatch .unbounded (.inclusive (Text.trim term))]
  | .comparison .greater => [target.rangeMatch (.exclusive (Text.trim term)) .unbounded]
  | .comparison .atLeast => [target.rangeMatch (.inclusive (Text.trim term)) .unbounded]
  | .named "adj" | .named "exact" => [target.wholeMatch term]
  | .named "any" | .named "all" => (Term.words term).map target.termMatch
  | .named "within" =>
      match Term.words term with
      | [low, high] =>
          [target.rangeMatch (.inclusive (Text.trim low)) (.inclusive (Text.trim high))]
      | _ => []
  | .named _ => []

/-- The truth of a clause: some word or every word is matched, the term is not matched, or what the
term is matched with as a whole is matched.
-/
def holds (target : ClauseTarget) (truth : FieldMatch → Bool) (relation : Relation) (term : String)
    : Bool :=
  match relation with
  | .named "any" => (Term.words term).any fun word => truth (target.termMatch word)
  | .named "all" => (Term.words term).all fun word => truth (target.termMatch word)
  | .comparison .different => !truth (target.equalMatch term)
  | relation => (target.fieldMatches relation term).all truth

end ClauseTarget

-----------------------------------------------------------------------------------------
-- Trees
-----------------------------------------------------------------------------------------

/-- A part of a query that is matched on its own: a clause, or what `prox` joins. -/
inductive QueryUnit where
  | clause (clause : SearchClause)
  | near (modifiers : List Modifier) (left right : QueryTree)

/-- The parts that are matched on their own, from left to right. -/
def QueryTree.units : QueryTree → List QueryUnit
  | .search clause => [.clause clause]
  | .boolean .prox modifiers left right => [.near modifiers left right]
  | .boolean _ _ left right => left.units ++ right.units

/-- The truth of a tree, given that of its parts. An operand behind `not` must not hold. -/
def QueryTree.holds (truth : QueryUnit → Bool) : QueryTree → Bool
  | .search clause => truth (.clause clause)
  | .boolean .prox modifiers left right => truth (.near modifiers left right)
  | .boolean .and _ left right => left.holds truth && right.holds truth
  | .boolean .or _ left right => left.holds truth || right.holds truth
  | .boolean .not _ left right => left.holds truth && !right.holds truth

namespace Catalog

/-- What a clause is matched against, if its index is known. -/
def target? (catalog : Catalog) (clause : SearchClause) : Option ClauseTarget :=
  (catalog.field? (catalog.indexName clause)).map fun field => {
    index := catalog.indexName clause
    field := field
    escaping := Modifier.lastEscaping field.escaping clause.modifiers
  }

/-- The match of the words of two clauses near each other, in the field of the left one. -/
def nearMatch? (catalog : Catalog) (modifiers : List Modifier) (left right : QueryTree)
    : Option FieldMatch := do
  let left ← left.clause?
  let right ← right.clause?
  let field ← catalog.field? (catalog.indexName left)
  return {
    field := field.name
    escaping := field.escaping
    value := .proximity (Term.joinWords (Term.words left.term ++ Term.words right.term))
      (Modifier.lastSlop modifiers)
  }

/-- The field matches of a part. -/
def unitMatches (catalog : Catalog) : QueryUnit → List FieldMatch
  | .clause clause =>
      match catalog.target? clause with
      | some target => target.fieldMatches clause.relation clause.term
      | none => []
  | .near modifiers left right => (catalog.nearMatch? modifiers left right).toList

/-- The truth of a part, given that of field matches. -/
def unitHolds (catalog : Catalog) (truth : FieldMatch → Bool) : QueryUnit → Bool
  | .clause clause =>
      match catalog.target? clause with
      | some target => target.holds truth clause.relation clause.term
      | none => false
  | .near modifiers left right => (catalog.nearMatch? modifiers left right).any truth

end Catalog

end CqlGateway
