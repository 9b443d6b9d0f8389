import CqlGateway.Ordered.NameMap
import CqlGateway.Works.Grouping

/-! Groups hits in tables, one for each question that is asked about them: the works in their order,
the works that were seen, the units of a work, the work of a unit and the manifestations of a unit.
A hit changes each of them in turn.
-/

namespace CqlGateway

structure WorkTables where
  works : List String
  seenWorks : NameSet
  units : NameMap (List String)
  unitWork : NameMap String
  manifestations : NameMap NameSet
deriving DecidableEq, Repr

namespace WorkTables

def empty : WorkTables :=
  {
    works := []
    seenWorks := []
    units := []
    unitWork := []
    manifestations := []
  }

def containsWork (tables : WorkTables) (work : String) : Bool :=
  tables.seenWorks.contains work

/-- Puts a work behind the others, without units yet, unless it was seen. -/
def withWork (tables : WorkTables) (work : String) : WorkTables :=
  if tables.containsWork work then
    tables
  else
    {
      works := tables.works ++ [work]
      seenWorks := tables.seenWorks.insert work
      units := tables.units.update work [] id
      unitWork := tables.unitWork
      manifestations := tables.manifestations
    }

/-- Gives a unit to a work, unless it belongs to one already. -/
def withUnit (tables : WorkTables) (work unit : String) : WorkTables :=
  if tables.unitWork.contains unit then
    tables
  else
    {
      works := tables.works
      seenWorks := tables.seenWorks
      units := tables.units.update work [] (· ++ [unit])
      unitWork := tables.unitWork.insert unit work
      manifestations := tables.manifestations
    }

def withManifestation (tables : WorkTables) (unit manifestation : String) : WorkTables :=
  {
    works := tables.works
    seenWorks := tables.seenWorks
    units := tables.units
    unitWork := tables.unitWork
    manifestations := tables.manifestations.update unit [] (·.insert manifestation)
  }

/-- Takes in a hit, and tells whether its work is new. -/
def insert (tables : WorkTables) (hit : Hit) : Bool × WorkTables :=
  (
    !tables.containsWork hit.work,
    ((tables.withWork hit.work).withUnit hit.work hit.unit).withManifestation hit.unit
      hit.manifestation
  )

/-- The tables of hits that come one after the other. -/
def ofHits (hits : List Hit) : WorkTables :=
  hits.foldl (fun tables hit => (tables.insert hit).2) empty

/-- The units of a work. There are none if all of them were first seen with other works. -/
def unitsOf (tables : WorkTables) (work : String) : Except UnseenId (List String) :=
  match tables.units.lookup? work with
  | some units => .ok units
  | none => .error (.work work)

/-- The manifestations of a unit in order. -/
def manifestationsOf (tables : WorkTables) (unit : String) : Except UnseenId NameSet :=
  match tables.manifestations.lookup? unit with
  | some manifestations => .ok manifestations
  | none => .error (.unit unit)

/-- The work that a unit belongs to. -/
def workOf (tables : WorkTables) (unit : String) : Except UnseenId String :=
  match tables.unitWork.lookup? unit with
  | some work => .ok work
  | none => .error (.unit unit)

end WorkTables

end CqlGateway
