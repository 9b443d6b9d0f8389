import CqlGateway.Report.Basic
import CqlGateway.Text.Padding
import CqlGateway.Works.Page

/-! Shows a page of works with their units and manifestations, and what it took to collect them. -/

namespace CqlGateway.Report

/-- A unit with its manifestations. -/
def ofUnit (grouping : Grouping) (unit : String) : Report :=
  let manifestations := ((grouping.manifestations unit).toOption).getD []
  [
    .plain (Text.blanks 5),
    .colored .blue unit,
    .plain ("  [" ++ String.intercalate ", " manifestations ++ "]\n")
  ]

/-- A work at a position, with its units. A work that was never seen has none. -/
def ofWork (grouping : Grouping) (position : Nat) (work : String) : Report :=
  let units := ((grouping.units work).toOption).getD []
  [
    .colored .green (Text.padStart 3 (toString position) ++ ". "),
    .bold .magenta work,
    .lineEnd
  ]
    ++ units.flatMap (ofUnit grouping)

/-- Works at positions from `start` on. -/
def ofWorks (grouping : Grouping) (start : Nat) (works : List String) : Report :=
  works.zipIdx.flatMap fun (work, index) => ofWork grouping (wrappingAdd start index) work

/-- What it took to collect the works that are known. -/
def ofStats (stats : CollectionStats) (known : Nat) : Report :=
  [
    .plain (
      "-- " ++ toString stats.roundTrips ++ " round trip(s), "
        ++ toString stats.hitsSeen ++ " hit(s) seen, "
        ++ toString stats.hitsSkipped ++ " skipped, "
        ++ toString known ++ " work(s) known\n")
  ]

/-- A page whose first work is at the position `start`. -/
def ofPage (start : Nat) (page : WorkPage) : Report :=
  (if page.works.isEmpty then [.plain "no works\n"] else [])
    ++ ofWorks page.grouping start page.works
    ++ ofStats page.stats page.grouping.length

end CqlGateway.Report
