import CqlGateway.Catalog.Basic
import CqlGateway.EngineQuery.Basic
import CqlGateway.Ordered.NameSet
import CqlGateway.Profile.Declaration

/-! What a profile lets through: a filter for searches, one for relation lookups, and the
collections and relations that can be seen. A profile depends on what was declared, not on the order
or repetition of declarations.
-/

namespace CqlGateway

structure Profile where
  name : String
  searchFilter : EngineQuery
  relationFilter : EngineQuery
  /-- The relations that were declared for each collection. -/
  relations : NameMap NameSet
  /-- The collections that can be seen; without it all can. -/
  visible : Option NameSet

namespace ProfileDeclaration

/-- The collections that may be searched. -/
def searchable (declaration : ProfileDeclaration) : NameSet :=
  .ofList ((declaration.sources.filter (·.searchable)).map (·.collection))

/-- True of a source that can be seen: it may be searched, or some relation leads to it. -/
def isVisible (source : SourceDeclaration) : Bool :=
  source.searchable || !source.relations.isEmpty

/-- The collections that can be seen. -/
def visible (declaration : ProfileDeclaration) : NameSet :=
  .ofList ((declaration.sources.filter isVisible).map (·.collection))

/-- Adds the relations of a source to those of its collection. A source without relations adds no
entry.
-/
def addRelations (relations : NameMap NameSet) (source : SourceDeclaration) : NameMap NameSet :=
  if source.relations.isEmpty then
    relations
  else
    let held := (relations.lookup? source.collection).getD []
    relations.insert source.collection (NameSet.insertAll held source.relations)

/-- The relations of all sources, by collection. -/
def relations (declaration : ProfileDeclaration) : NameMap NameSet :=
  declaration.sources.foldl addRelations []

end ProfileDeclaration

namespace Profile

/-- Matches the records of some of the collections. -/
def collectionFilter (field : EngineField) (collections : NameSet) : EngineQuery :=
  .disjunction (collections.map (.term field.name field.escaping))

/-- The profile of a declaration. -/
def ofDeclaration (catalog : Catalog) (declaration : ProfileDeclaration) : Profile :=
  {
    name := declaration.name
    searchFilter := collectionFilter catalog.collectionField declaration.searchable
    relationFilter := collectionFilter catalog.collectionField declaration.visible
    relations := declaration.relations
    visible := some declaration.visible
  }

/-- The profile that lets everything through. -/
def unrestricted : Profile :=
  {
    name := "unrestricted"
    searchFilter := .all
    relationFilter := .all
    relations := []
    visible := none
  }

/-- The filter for queries of a kind. -/
def filter (profile : Profile) : QueryKind → EngineQuery
  | .search => profile.searchFilter
  | .relation => profile.relationFilter

@[simp]
theorem filter_search (profile : Profile) : profile.filter .search = profile.searchFilter := by
  rfl

@[simp]
theorem filter_relation (profile : Profile)
    : profile.filter .relation = profile.relationFilter := by
  rfl

/-- True if the relation was declared for the collection. -/
def hasRelation (profile : Profile) (collection relation : String) : Bool :=
  ((profile.relations.lookup? collection).getD []).contains relation

/-- True of a record in these collections that can be seen. -/
def admits (profile : Profile) (collections : List String) : Bool :=
  match profile.visible with
  | none => true
  | some visible => collections.any visible.contains

end Profile

end CqlGateway
