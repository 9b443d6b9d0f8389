/-! Access profiles as they are declared: the collections that a user may search, and the relations
through which further collections may be seen.
-/

namespace CqlGateway

structure SourceDeclaration where
  collection : String
  searchable : Bool
  /-- The relations that lead to the collection. -/
  relations : List String
deriving DecidableEq, Repr

structure ProfileDeclaration where
  name : String
  sources : List SourceDeclaration
deriving DecidableEq, Repr

/-- A collection that may be searched and is seen through these relations. -/
def SourceDeclaration.searched (collection : String) (relations : List String)
    : SourceDeclaration :=
  {
    collection := collection
    searchable := true
    relations := relations
  }

end CqlGateway
