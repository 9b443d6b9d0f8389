import CqlGateway.Index.Hit
import CqlGateway.Ordered.NameSet

/-! Groups hits into works, works into units and units into manifestations. Works and units stand in
the order in which they were first seen. A unit belongs to the work it was first seen with, also
when it comes with another one later.
-/

namespace CqlGateway

structure UnitGroup where
  id : String
  manifestations : NameSet
deriving DecidableEq, Repr

structure WorkGroup where
  id : String
  units : List UnitGroup
deriving DecidableEq, Repr

/-- Works in the order in which they were first seen. -/
abbrev Grouping := List WorkGroup

/-- Something that was never seen. -/
inductive UnseenId where
  | work (id : String)
  | unit (id : String)
deriving DecidableEq, Repr

namespace WorkGroup

def hasUnit (work : WorkGroup) (unit : String) : Bool :=
  work.units.any (·.id = unit)

/-- Adds a manifestation to a unit, if the work has that unit. -/
def addManifestation (work : WorkGroup) (unit manifestation : String) : WorkGroup :=
  {
    id := work.id
    units := work.units.map fun group =>
      if group.id = unit then
        {
          id := group.id
          manifestations := group.manifestations.insert manifestation
        }
      else
        group
  }

/-- Adds a unit with its first manifestation. -/
def addUnit (work : WorkGroup) (unit manifestation : String) : WorkGroup :=
  {
    id := work.id
    units := work.units ++ [⟨unit, [manifestation]⟩]
  }

end WorkGroup

namespace Grouping

/-- The works in their order. -/
def works (grouping : Grouping) : List String :=
  grouping.map (·.id)

def hasWork (grouping : Grouping) (work : String) : Bool :=
  grouping.any (·.id = work)

def hasUnit (grouping : Grouping) (unit : String) : Bool :=
  grouping.any (·.hasUnit unit)

/-- Puts a work behind the others, unless it is there. -/
def withWork (grouping : Grouping) (work : String) : Grouping :=
  if hasWork grouping work then grouping else grouping ++ [⟨work, []⟩]

/-- Puts the unit and the manifestation of a hit in their place. The hit's work must be there. -/
def placeUnit (grouping : Grouping) (hit : Hit) : Grouping :=
  if hasUnit grouping hit.unit then
    grouping.map (·.addManifestation hit.unit hit.manifestation)
  else
    grouping.map fun work =>
      if work.id = hit.work then work.addUnit hit.unit hit.manifestation else work

/-- Takes in a hit. -/
def insert (grouping : Grouping) (hit : Hit) : Grouping :=
  placeUnit (withWork grouping hit.work) hit

/-- Takes in a hit, and tells whether its work is new. -/
def insertNew (grouping : Grouping) (hit : Hit) : Bool × Grouping :=
  (!hasWork grouping hit.work, insert grouping hit)

/-- The grouping of hits that come one after the other. -/
def ofHits (hits : List Hit) : Grouping :=
  hits.foldl insert []

/-- The units of a work. There are none if all of them were first seen with other works. -/
def units (grouping : Grouping) (work : String) : Except UnseenId (List String) :=
  match grouping.find? (·.id = work) with
  | some group => .ok (group.units.map (·.id))
  | none => .error (.work work)

/-- The manifestations of a unit in order. -/
def manifestations (grouping : Grouping) (unit : String) : Except UnseenId NameSet :=
  match (grouping.flatMap (·.units)).find? (·.id = unit) with
  | some group => .ok group.manifestations
  | none => .error (.unit unit)

/-- The work that a unit belongs to. -/
def workOf (grouping : Grouping) (unit : String) : Except UnseenId String :=
  match grouping.find? (·.hasUnit unit) with
  | some group => .ok group.id
  | none => .error (.unit unit)

end Grouping

end CqlGateway
