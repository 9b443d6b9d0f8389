import CqlGateway.Index.Hit

/-! The index engine as it is seen from outside: it answers requests for some rows of the ranked
hits, and each answer may depend on what it was asked before.
-/

namespace CqlGateway

/-- Names the requests of one caller: a base and a number that grows with each request. -/
structure TrackingId where
  base : String
  number : Nat
deriving DecidableEq, Repr

namespace TrackingId

/-- The name of a caller's first request. -/
def first (base : String) : TrackingId :=
  {
    base := base
    number := 0
  }

/-- The name of the request that follows. -/
def next (id : TrackingId) : TrackingId :=
  { id with number := id.number + 1 }

def text (id : TrackingId) : String :=
  id.base ++ ":" ++ toString id.number

end TrackingId

/-- Asks for so many rows of the hits, from an offset on. -/
structure EngineRequest where
  query : String
  sort : Option String
  offset : Nat
  rows : Nat
  tracking : TrackingId
deriving DecidableEq, Repr

/-- Some of the hits in their order, and the number of all. -/
structure EnginePage where
  hits : List Hit
  total : Nat
deriving DecidableEq, Repr

inductive EngineError where
  | unavailable (tracking : TrackingId)
  | missingCount
  | missingDocuments
  | missingField (field : String)
  /-- A request does not come through to the engine. -/
  | unreachable
  /-- What an engine says of itself. -/
  | reported (message : String)
deriving DecidableEq, Repr

def EngineError.message : EngineError → String
  | .unavailable tracking => "engine unavailable (tracking " ++ tracking.text ++ ")"
  | .missingCount => "response has no numFound"
  | .missingDocuments => "response has no docs"
  | .missingField field => s!"hit is missing field '{field}'"
  | .unreachable => "the engine cannot be reached"
  | .reported message => message

/-- Answers requests, and moves on to another state. -/
structure IndexEngine (State : Type) where
  search : EngineRequest → State → Except EngineError EnginePage × State

namespace IndexEngine

/-- Answers each request from all requests so far, the present one last. -/
def ofHistory (answer : List EngineRequest → Except EngineError EnginePage)
    : IndexEngine (List EngineRequest) :=
  {
    search := fun request history => (answer (history ++ [request]), history ++ [request])
  }

/-- An engine that no request comes through to. -/
def unreachable : IndexEngine Unit :=
  {
    search := fun _ state => (.error .unreachable, state)
  }

end IndexEngine

end CqlGateway
