import CqlGateway.Catalog.Field
import CqlGateway.Ordered.NameMap
import CqlGateway.Text.Lowercase

/-! The catalog says which field of the engine an index of a query means. Names of indexes are
compared in lower case. An unknown name is an error, and only a term without an index gets the
default one.
-/

namespace CqlGateway

inductive CatalogError where
  | duplicateIndex (name : String)
  | missingIndex (name : String)
deriving DecidableEq, Repr

/-- The indexes in lower case with their fields. The default index and the one that holds the
collection of a record are among them.
-/
structure Catalog where
  defaultIndex : String
  collectionIndex : String
  fields : NameMap EngineField
  has_default : (fields.lookup? defaultIndex).isSome
  has_collection : (fields.lookup? collectionIndex).isSome

/-- A catalog as it is written down. -/
structure CatalogSettings where
  defaultIndex : String
  collectionIndex : String
  fields : NameMap EngineField
deriving DecidableEq

namespace Catalog

/-- The index of terms that name none. -/
def standardDefaultIndex : String := "cql.serverchoice"

/-- The index of collections. -/
def standardCollectionIndex : String := "rec.collectionidentifier"

/-- Adds an index, whose name must be new. -/
def addIndex (fields : NameMap EngineField) (entry : String × EngineField)
    : Except CatalogError (NameMap EngineField) :=
  let name := Text.lowercase entry.1
  if fields.contains name then
    .error (.duplicateIndex entry.1)
  else
    .ok (fields.insert name entry.2)

/-- A catalog of the entries. Their names must differ and include the two indexes that are needed.
-/
def ofEntries (defaultIndex collectionIndex : String) (entries : List (String × EngineField))
    : Except CatalogError Catalog := do
  let fields ← entries.foldlM addIndex []
  let defaultIndex := Text.lowercase defaultIndex
  let collectionIndex := Text.lowercase collectionIndex
  if has_default : (fields.lookup? defaultIndex).isSome then
    if has_collection : (fields.lookup? collectionIndex).isSome then
      return {
        defaultIndex := defaultIndex
        collectionIndex := collectionIndex
        fields := fields
        has_default := has_default
        has_collection := has_collection
      }
    else
      throw (.missingIndex collectionIndex)
  else
    throw (.missingIndex defaultIndex)

/-- The catalog that is written down in settings. -/
def ofSettings (settings : CatalogSettings) : Except CatalogError Catalog :=
  ofEntries settings.defaultIndex settings.collectionIndex settings.fields

/-- The catalog as it is written down. -/
def settings (catalog : Catalog) : CatalogSettings :=
  {
    defaultIndex := catalog.defaultIndex
    collectionIndex := catalog.collectionIndex
    fields := catalog.fields
  }

/-- The field of an index. -/
def field? (catalog : Catalog) (index : String) : Option EngineField :=
  catalog.fields.lookup? (Text.lowercase index)

def contains (catalog : Catalog) (index : String) : Bool :=
  catalog.fields.contains (Text.lowercase index)

/-- The field that holds the collections of a record. -/
def collectionField (catalog : Catalog) : EngineField :=
  (catalog.fields.lookup? catalog.collectionIndex).get catalog.has_collection

end Catalog

end CqlGateway
