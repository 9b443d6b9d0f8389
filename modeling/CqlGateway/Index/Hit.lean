/-! What the index engine finds: a manifestation, with the unit and the work it belongs to. -/

namespace CqlGateway

structure Hit where
  work : String
  unit : String
  manifestation : String
  collections : List String
deriving DecidableEq, Repr

/-- The fields of the engine that hold the parts of a hit. -/
structure HitFields where
  work : String
  unit : String
  manifestation : String
  collection : String
deriving DecidableEq, Repr

def HitFields.standard : HitFields :=
  {
    work := "rec.workId"
    unit := "rec.unitId"
    manifestation := "rec.manifestationId"
    collection := "rec.collectionIdentifier"
  }

end CqlGateway
