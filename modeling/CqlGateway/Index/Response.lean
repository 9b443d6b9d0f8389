import CqlGateway.Index.Engine
import CqlGateway.Json.Writer

/-! Decodes the response of an engine to a request. A field of a document may hold one value or an
array of them; each document is a hit, and one without a work, a unit or a manifestation spoils the
response.
-/

namespace CqlGateway

namespace Json

/-- The text of a string, and nothing of other values. -/
def text? : Json → Option String
  | .string content => some content
  | _ => none

/-- The texts that a field holds. In an array only strings count. -/
def fieldTexts : Option Json → List String
  | some (.string content) => [content]
  | some (.array items) => items.filterMap text?
  | some (.number value) => [value.text]
  | _ => []

end Json

namespace HitFields

/-- The first text of a field that a document must have. -/
def requiredText (document : Json) (field : String) : Except EngineError String :=
  match Json.fieldTexts (document.member? field) with
  | text :: _ => .ok text
  | [] => .error (.missingField field)

/-- The hit that a document describes. -/
def hit (fields : HitFields) (document : Json) : Except EngineError Hit := do
  let work ← requiredText document fields.work
  let unit ← requiredText document fields.unit
  let manifestation ← requiredText document fields.manifestation
  return {
    work := work
    unit := unit
    manifestation := manifestation
    collections := Json.fieldTexts (document.member? fields.collection)
  }

end HitFields

namespace EnginePage

/-- The number of hits in a response. -/
def total? (response : Option Json) : Option Nat :=
  match response.bind (·.member? "numFound") with
  | some (.number (.natural total)) => some total
  | _ => none

/-- The documents in a response. -/
def documents? (response : Option Json) : Option (List Json) :=
  match response.bind (·.member? "docs") with
  | some (.array documents) => some documents
  | _ => none

/-- The page that a response holds. -/
def ofResponse (fields : HitFields) (body : Json) : Except EngineError EnginePage :=
  let response := body.member? "response"
  match total? response, documents? response with
  | none, _ => .error .missingCount
  | some _, none => .error .missingDocuments
  | some total, some documents => do
      let hits ← documents.mapM fields.hit
      return {
        hits := hits
        total := total
      }

end EnginePage

end CqlGateway
