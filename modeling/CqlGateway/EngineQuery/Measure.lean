import CqlGateway.EngineQuery.Basic

/-! The shape of an engine query: whether it is flat, how deep it is, and the fields it matches. -/

namespace CqlGateway.EngineQuery

mutual

/-- True if no conjunction has a conjunction and no disjunction a disjunction as an operand. -/
def isFlat : EngineQuery → Bool
  | .all => true
  | .leaf _ => true
  | .not operand => isFlat operand
  | .and operands => operands.all (!·.isAnd) && areFlat operands
  | .or operands => operands.all (!·.isOr) && areFlat operands

def areFlat : List EngineQuery → Bool
  | [] => true
  | operand :: rest => isFlat operand && areFlat rest

end

mutual

/-- The number of levels. -/
def depth : EngineQuery → Nat
  | .all => 1
  | .leaf _ => 1
  | .not operand => 1 + depth operand
  | .and operands => 1 + greatestDepth operands
  | .or operands => 1 + greatestDepth operands

def greatestDepth : List EngineQuery → Nat
  | [] => 0
  | operand :: rest => max (depth operand) (greatestDepth rest)

end

mutual

/-- The field matches from left to right. -/
def leaves : EngineQuery → List FieldMatch
  | .all => []
  | .leaf condition => [condition]
  | .not operand => leaves operand
  | .and operands => allLeaves operands
  | .or operands => allLeaves operands

def allLeaves : List EngineQuery → List FieldMatch
  | [] => []
  | operand :: rest => leaves operand ++ allLeaves rest

end

/-- The number of field matches. -/
def leafCount (query : EngineQuery) : Nat :=
  query.leaves.length

end CqlGateway.EngineQuery
