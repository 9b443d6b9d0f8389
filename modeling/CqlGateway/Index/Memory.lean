import CqlGateway.Index.Engine

/-! An engine that holds its hits in memory. It finds the same hits whatever the query is, and can
be made to fail after some requests.
-/

namespace CqlGateway

structure MemoryEngine where
  hits : List Hit
  /-- The number of requests that are answered before every further one fails. -/
  failAfter : Option Nat

namespace MemoryEngine

/-- The rows that a request asks for. -/
def page (engine : MemoryEngine) (request : EngineRequest) : EnginePage :=
  {
    hits := (engine.hits.drop request.offset).take request.rows
    total := engine.hits.length
  }

/-- True if so many requests are all that are answered. -/
def isExhausted (engine : MemoryEngine) (answered : Nat) : Bool :=
  match engine.failAfter with
  | some limit => limit ≤ answered
  | none => false

/-- The engine as one that remembers the requests it answered. -/
def index (engine : MemoryEngine) : IndexEngine (List EngineRequest) :=
  {
    search := fun request answered =>
      if engine.isExhausted answered.length then
        (.error (.unavailable request.tracking), answered)
      else
        (.ok (engine.page request), answered ++ [request])
  }

end MemoryEngine

end CqlGateway
