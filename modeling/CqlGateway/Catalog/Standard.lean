import CqlGateway.Catalog.Basic

/-! The catalog that is used unless another one is given: the common bibliographic indexes. -/

namespace CqlGateway.Catalog

/-- A field of strings. -/
def stringField (name : String) (multiValued : Bool) (usage : FieldUsage) : EngineField :=
  {
    name := name
    type := .string
    multiValued := multiValued
    escaping := .literal
    usage := usage
  }

def standardEntries : List (String × EngineField) :=
  [
    (standardDefaultIndex, .text "term.default"),
    ("dc.title", .text "term.title"),
    ("title", .text "term.title"),
    ("dc.creator", .text "term.creator"),
    ("author", .text "term.creator"),
    ("dc.subject", .text "term.subject"),
    ("subject", .text "term.subject"),
    ("dc.description", .text "term.description"),
    ("dc.language", stringField "term.language" true .search),
    ("dc.type", stringField "term.type" true .search),
    ("dc.identifier", stringField "term.identifier" true .search),
    ("dc.date", .literal "term.date" .date),
    ("year", .literal "term.year" .numeric),
    ("rec.id", stringField "rec.id" false .both),
    (standardCollectionIndex, stringField "rec.collectionIdentifier" true .both),
    ("rec.workid", stringField "rec.workId" false .both),
    ("rec.unitid", stringField "rec.unitId" false .both),
    ("rel.type", stringField "rel.type" true .relation),
    ("rel.target", stringField "rel.target" true .relation)
  ]

/-- The indexes in order. -/
def standardFields : NameMap EngineField :=
  NameMap.ofList standardEntries

def standard : Catalog :=
  {
    defaultIndex := standardDefaultIndex
    collectionIndex := standardCollectionIndex
    fields := standardFields
    has_default := by decide +kernel
    has_collection := by decide +kernel
  }

end CqlGateway.Catalog
