import CqlGateway.Json.Shape
import CqlGateway.Settings.Decode

/-! The shapes of settings, and of hits, as JSON. -/

namespace CqlGateway.Json.Shape

def engineField : Shape :=
  .record "struct FieldSpec" [
    ("field", true, .text),
    ("type", false, .choice (Decoder.fieldTypes.map (·.1))),
    ("multi_valued", false, .boolean),
    ("escaping", false, .choice (Decoder.escapings.map (·.1))),
    ("usage", false, .choice (Decoder.fieldUsages.map (·.1)))
  ]

def catalogSettings : Shape :=
  .record "struct CatalogConfig" [
    ("default_index", false, .text),
    ("collection_index", false, .text),
    ("fields", true, .members engineField)
  ]

def sourceDeclaration : Shape :=
  .record "struct SourceMetadata" [
    ("collection", true, .text),
    ("searchable", false, .boolean),
    ("relations", false, .list .text)
  ]

def profileDeclaration : Shape :=
  .record "struct ProfileMetadata" [
    ("name", true, .text),
    ("sources", false, .list sourceDeclaration)
  ]

def keywordSettings : Shape :=
  .record "struct KeywordConfig" [
    ("locale", false, .text),
    ("synonyms", false, .list .textPair),
    ("relations", false, .list .text)
  ]

def batchPolicy : Shape :=
  .record "struct PagingConfig" [
    ("max_rows", false, .count "usize"),
    ("growth_cap", false, .count "usize")
  ]

def hitFields : Shape :=
  .record "struct HitFields" [
    ("work", true, .text),
    ("unit", true, .text),
    ("manifestation", true, .text),
    ("collection", true, .text)
  ]

def endpointSettings : Shape :=
  .record "struct EngineConfig" [
    ("base_url", false, .text),
    ("core", false, .text),
    ("timeout_ms", false, .count "u64"),
    ("fields", false, hitFields)
  ]

def settings : Shape :=
  .record "struct AppConfig" [
    ("engine", false, endpointSettings),
    ("catalog", false, .optional catalogSettings),
    ("profiles", false, .list profileDeclaration),
    ("keywords", false, keywordSettings),
    ("paging", false, batchPolicy)
  ]

def hit : Shape :=
  .record "struct Hit" [
    ("work_id", true, .text),
    ("unit_id", true, .text),
    ("manifestation_id", true, .text),
    ("collections", false, .list .text)
  ]

end CqlGateway.Json.Shape
