import CqlGateway.Term.Escape

/-! The query that the index engine answers: conjunctions and disjunctions of any number of
operands, negations, and matches of single fields. The values are kept as they were written; they
are escaped when the query is written out.
-/

namespace CqlGateway

/-- An end of a range. -/
inductive Bound where
  | unbounded
  | inclusive (value : String)
  | exclusive (value : String)
deriving DecidableEq, Repr

/-- What a field is matched with. -/
inductive MatchValue where
  /-- One term, which may have wildcards if they are not escaped. -/
  | term (value : String)
  /-- Words one after the other. -/
  | phrase (value : String)
  /-- Words no more than `slop` places apart. -/
  | proximity (words : String) (slop : Nat)
  | range (lower upper : Bound)
deriving DecidableEq, Repr

structure FieldMatch where
  field : String
  escaping : Escaping
  value : MatchValue
deriving DecidableEq, Repr

inductive EngineQuery where
  /-- Matches every document. -/
  | all
  | and (operands : List EngineQuery)
  | or (operands : List EngineQuery)
  | not (operand : EngineQuery)
  | leaf (condition : FieldMatch)

namespace EngineQuery

/-- A match of one term. -/
def term (field : String) (escaping : Escaping) (value : String) : EngineQuery :=
  .leaf {
    field := field
    escaping := escaping
    value := .term value
  }

/-- A match of words one after the other. -/
def phrase (field : String) (escaping : Escaping) (value : String) : EngineQuery :=
  .leaf {
    field := field
    escaping := escaping
    value := .phrase value
  }

/-- A match of the values between two bounds, in which nothing is a wildcard. -/
def range (field : String) (lower upper : Bound) : EngineQuery :=
  .leaf {
    field := field
    escaping := .literal
    value := .range lower upper
  }

/-- Matches no document. -/
def nothing : EngineQuery :=
  .not .all

/-- The operands that a query brings into a conjunction. -/
def conjuncts : EngineQuery → List EngineQuery
  | .and operands => operands
  | query => [query]

/-- The operands that a query brings into a disjunction. -/
def disjuncts : EngineQuery → List EngineQuery
  | .or operands => operands
  | query => [query]

/-- The conjunction. Operands that are conjunctions are taken apart, one operand is itself, and none
is everything.
-/
def conjunction (operands : List EngineQuery) : EngineQuery :=
  match operands.flatMap conjuncts with
  | [] => .all
  | [operand] => operand
  | operands => .and operands

/-- The disjunction. Operands that are disjunctions are taken apart, one operand is itself, and none
is nothing.
-/
def disjunction (operands : List EngineQuery) : EngineQuery :=
  match operands.flatMap disjuncts with
  | [] => nothing
  | [operand] => operand
  | operands => .or operands

/-- The negation, of which two cancel out. -/
def negation : EngineQuery → EngineQuery
  | .not operand => operand
  | query => .not query

def isAnd : EngineQuery → Bool
  | .and _ => true
  | _ => false

def isOr : EngineQuery → Bool
  | .or _ => true
  | _ => false

def isNot : EngineQuery → Bool
  | .not _ => true
  | _ => false

end EngineQuery

end CqlGateway
