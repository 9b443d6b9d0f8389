import CqlGateway.EngineQuery.Text
import CqlGateway.Profile.Registry
import CqlGateway.Report.Basic

/-! Shows profiles with their filters and the relations that were declared for them. -/

namespace CqlGateway.Report

/-- A collection with its relations. -/
def ofRelations (collection : String) (relations : NameSet) : Segment :=
  .plain ("  " ++ collection ++ " -> " ++ String.intercalate ", " relations ++ "\n")

def ofProfile (profile : Profile) : Report :=
  [
    .bold .magenta profile.name,
    .lineEnd,
    .plain ("  search:   " ++ profile.searchFilter.text ++ "\n"),
    .plain ("  relation: " ++ profile.relationFilter.text ++ "\n")
  ]
    ++ profile.relations.map fun (collection, relations) => ofRelations collection relations

def ofRegistry (registry : ProfileRegistry) : Report :=
  (if registry.isEmpty then [.plain "no profiles configured\n"] else [])
    ++ registry.flatMap fun (_, profile) => ofProfile profile

end CqlGateway.Report
