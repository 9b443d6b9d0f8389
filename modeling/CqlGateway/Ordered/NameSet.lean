/-! Sets of names, in the order of the names by code point and without repetition, so that sets with
the same members are equal.
-/

namespace CqlGateway

abbrev NameSet := List String

namespace NameSet

def insert (names : NameSet) (name : String) : NameSet :=
  match names with
  | [] => [name]
  | other :: rest =>
      if name = other then
        other :: rest
      else if name < other then
        name :: other :: rest
      else
        other :: insert rest name

/-- Puts all names of a list into the set. -/
def insertAll (names : NameSet) (added : List String) : NameSet :=
  added.foldl insert names

/-- The set of the names in a list. -/
def ofList (names : List String) : NameSet :=
  insertAll [] names

end NameSet

end CqlGateway
