import CqlGateway.Catalog.Field
import CqlGateway.Query.Tree

/-! Why a query that is well formed cannot be put to the engine. -/

namespace CqlGateway

inductive ValueFault where
  | emptyTerm
  | notNumber
  | notDate
  | notTwoValues
deriving DecidableEq, Repr

def ValueFault.message : ValueFault → String
  | .emptyTerm => "empty term"
  | .notNumber => "expected a number"
  | .notDate => "expected YYYY, YYYY-MM or YYYY-MM-DD"
  | .notTwoValues => "within expects exactly two values"

inductive ModifierFault where
  | malformedName
  | missingDistance
  | malformedDistance
  | impossibleDistance
  | unsupportedComparison
deriving DecidableEq, Repr

def ModifierFault.message : ModifierFault → String
  | .malformedName => "invalid modifier name"
  | .missingDistance => "distance requires a value"
  | .malformedDistance => "distance must be a non-negative integer"
  | .impossibleDistance => "distance<0 can never match"
  | .unsupportedComparison => "distance supports only =, < and <="

inductive ProximityFault where
  | notClauses
  | differentIndexes (left right : String)
  | notText (index : String)
  | wrongRelation (relation : Relation)
  | noWords
deriving DecidableEq, Repr

def ProximityFault.message : ProximityFault → String
  | .notClauses => "both operands must be search clauses"
  | .differentIndexes left right => s!"operands use different indexes '{left}' and '{right}'"
  | .notText index => s!"index '{index}' is not a text index"
  | .wrongRelation relation => "relation '" ++ relation.text ++ "' cannot be used with prox"
  | .noWords => "no words to match"

inductive CompilationError where
  | undefinedField (index : String)
  | wrongUsage (index : String) (kind : QueryKind)
  | unsupportedRelation (index relation : String)
  | invalidValue (index value : String) (fault : ValueFault)
  | malformedModifier (modifier : Modifier) (fault : ModifierFault)
  | invalidProximity (fault : ProximityFault)
deriving DecidableEq, Repr

def CompilationError.message : CompilationError → String
  | .undefinedField index => "undefined field: " ++ index
  | .wrongUsage index kind => "field '" ++ index ++ "' cannot be used in a " ++ kind.label
  | .unsupportedRelation index relation =>
      s!"relation '{relation}' is not supported for field '{index}'"
  | .invalidValue index value fault =>
      s!"invalid value '{value}' for field '{index}': " ++ fault.message
  | .malformedModifier modifier fault =>
      "malformed modifier '" ++ modifier.text ++ "': " ++ fault.message
  | .invalidProximity fault => "invalid proximity query: " ++ fault.message

end CqlGateway
