import CqlGateway.EngineQuery.Basic

/-! Writes an engine query in the engine's language. Operands stand in parentheses only where a
conjunction and a disjunction meet or under a negation, and what is only negative is subtracted from
the query that matches everything.
-/

namespace CqlGateway

def Bound.text : Bound → String
  | .unbounded => "*"
  | .inclusive value => Term.escape .literal value
  | .exclusive value => Term.escape .literal value

/-- The bracket in front of a lower bound. -/
def Bound.opening : Bound → String
  | .exclusive _ => "\x7b"
  | _ => "["

/-- The bracket behind an upper bound. -/
def Bound.closing : Bound → String
  | .exclusive _ => "\x7d"
  | _ => "]"

def FieldMatch.text (condition : FieldMatch) : String :=
  condition.field ++ ":"
    ++ match condition.value with
      | .term value => Term.escape condition.escaping value
      | .phrase value => "\"" ++ Term.escapePhrase value ++ "\""
      | .proximity words slop => "\"" ++ Term.escapePhrase words ++ "\"~" ++ toString slop
      | .range lower upper => lower.opening ++ lower.text ++ " TO " ++ upper.text ++ upper.closing

namespace EngineQuery

/-- Where a query stands: on its own, or as an operand. -/
inductive Place where
  | top
  | inAnd
  | inOr
  | inNot
deriving DecidableEq

/-- The query that matches every document. -/
def everything : String := "*:*"

def parenthesized (text : String) : String :=
  "(" ++ text ++ ")"

mutual

/-- A query at a place. -/
def textAt (place : Place) : EngineQuery → String
  | .all => everything
  | .leaf condition => condition.text
  | .and operands =>
      let anchor := if operands.all isNot then everything ++ " AND " else ""
      let text := anchor ++ String.intercalate " AND " (textsAt .inAnd operands)
      match place with
      | .inOr | .inNot => parenthesized text
      | .top | .inAnd => text
  | .or operands =>
      let text := String.intercalate " OR " (textsAt .inOr operands)
      match place with
      | .inAnd | .inNot => parenthesized text
      | .top | .inOr => text
  | .not operand =>
      let text := "NOT " ++ textAt .inNot operand
      match place with
      | .inAnd => text
      | .top => everything ++ " " ++ text
      | .inOr | .inNot => parenthesized (everything ++ " " ++ text)

def textsAt (place : Place) : List EngineQuery → List String
  | [] => []
  | operand :: rest => textAt place operand :: textsAt place rest

end

/-- The query in the engine's language. -/
def text (query : EngineQuery) : String :=
  textAt .top query

end EngineQuery

end CqlGateway
