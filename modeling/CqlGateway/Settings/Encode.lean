import CqlGateway.Json.Writer
import CqlGateway.Settings.Basic

/-! Writes settings as JSON. Every field is written, in a fixed order. -/

namespace CqlGateway

namespace Json

def ofTexts (texts : List String) : Json :=
  .array (texts.map .string)

def ofNat (value : Nat) : Json :=
  .number (.natural value)

end Json

def FieldType.name : FieldType → String
  | .text => "text"
  | .string => "string"
  | .numeric => "numeric"
  | .date => "date"

def Escaping.name : Escaping → String
  | .masked => "masked"
  | .literal => "literal"

def FieldUsage.name : FieldUsage → String
  | .search => "search"
  | .relation => "relation"
  | .both => "both"

def EngineField.json (field : EngineField) : Json :=
  .object [
    ("field", .string field.name),
    ("type", .string field.type.name),
    ("multi_valued", .boolean field.multiValued),
    ("escaping", .string field.escaping.name),
    ("usage", .string field.usage.name)
  ]

def CatalogSettings.json (settings : CatalogSettings) : Json :=
  .object [
    ("default_index", .string settings.defaultIndex),
    ("collection_index", .string settings.collectionIndex),
    ("fields", .object (settings.fields.map fun (index, field) => (index, field.json)))
  ]

def SourceDeclaration.json (source : SourceDeclaration) : Json :=
  .object [
    ("collection", .string source.collection),
    ("searchable", .boolean source.searchable),
    ("relations", .ofTexts source.relations)
  ]

def ProfileDeclaration.json (profile : ProfileDeclaration) : Json :=
  .object [
    ("name", .string profile.name),
    ("sources", .array (profile.sources.map (·.json)))
  ]

def KeywordSettings.json (settings : KeywordSettings) : Json :=
  .object [
    ("locale", .string settings.locale),
    ("synonyms", .array (settings.synonyms.map fun (word, name) => .ofTexts [word, name])),
    ("relations", .ofTexts settings.relations)
  ]

def BatchPolicy.json (policy : BatchPolicy) : Json :=
  .object [
    ("max_rows", .ofNat policy.maxRows),
    ("growth_cap", .ofNat policy.growthCap)
  ]

def HitFields.json (fields : HitFields) : Json :=
  .object [
    ("work", .string fields.work),
    ("unit", .string fields.unit),
    ("manifestation", .string fields.manifestation),
    ("collection", .string fields.collection)
  ]

def EndpointSettings.json (settings : EndpointSettings) : Json :=
  .object [
    ("base_url", .string settings.baseUrl),
    ("core", .string settings.core),
    ("timeout_ms", .ofNat settings.timeoutMs),
    ("fields", settings.fields.json)
  ]

def Settings.json (settings : Settings) : Json :=
  .object [
    ("engine", settings.endpoint.json),
    ("catalog", (settings.catalog.map (·.json)).getD .null),
    ("profiles", .array (settings.profiles.map (·.json))),
    ("keywords", settings.keywords.json),
    ("paging", settings.paging.json)
  ]

end CqlGateway
