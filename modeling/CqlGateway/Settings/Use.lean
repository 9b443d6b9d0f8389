import CqlGateway.Catalog.Standard
import CqlGateway.Error
import CqlGateway.Settings.Decode
import CqlGateway.Settings.Encode
import CqlGateway.Settings.Shape

/-! What settings are made into, and which settings are accepted. -/

namespace CqlGateway

namespace Settings

/-- The words of queries. -/
def vocabulary (settings : Settings) : Except Error Vocabulary :=
  match settings.keywords.vocabulary? with
  | some vocabulary => .ok vocabulary
  | none => .error (.settings (.keywords settings.keywords.locale))

def openCatalog (settings : Settings) : Except Error Catalog :=
  match settings.catalog with
  | some catalog => (Catalog.ofSettings catalog).mapError fun error => .settings (.catalog error)
  | none => .ok .standard

def registry (settings : Settings) (catalog : Catalog) : Except Error ProfileRegistry :=
  (ProfileRegistry.ofDeclarations catalog settings.profiles).mapError fun duplicate =>
    .settings (.duplicateProfile duplicate.name)

/-- The settings of an endpoint that can be asked. -/
def openEndpoint (settings : EndpointSettings) : Except Error EndpointSettings :=
  match settings.normalized? with
  | some endpoint => .ok endpoint
  | none => .error (.settings .emptyEndpoint)

/-- The settings themselves, if they are accepted: an address, room for a row, a catalog and a
vocabulary.
-/
def validate (settings : Settings) : Except Error Settings := do
  if Text.isBlank settings.endpoint.baseUrl.toList then
    throw (.settings .emptyAddress)
  if settings.paging.maxRows = 0 then
    throw (.settings .zeroRows)
  let _ ← settings.openCatalog
  let _ ← settings.vocabulary
  return settings

/-- The settings that a text holds, if they are accepted. -/
def load (text : String) : Except Error Settings :=
  match (Json.read? text).bind Json.Decoder.settings with
  | some settings => settings.validate
  | none => .error (.json (Json.Shape.settings.fault text))

/-- The settings as a text. -/
def save (settings : Settings) : String :=
  settings.json.pretty

end Settings

/-- The profile with a name. -/
def ProfileRegistry.profile (registry : ProfileRegistry) (name : String) : Except Error Profile :=
  match NameMap.lookup? registry name with
  | some profile => .ok profile
  | none => .error (.unknownProfile name)

namespace MemoryEngine

/-- The hits that a text lists. -/
def hitsOfText (text : String) : Except Error (List Hit) :=
  match (Json.read? text).bind (Json.Decoder.list Json.Decoder.hit) with
  | some hits => .ok hits
  | none => .error (.json ((Json.Shape.list Json.Shape.hit).fault text))

end MemoryEngine

end CqlGateway
