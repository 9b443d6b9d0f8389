import CqlGateway.Index.Hit
import CqlGateway.Text.Quoted

/-! Where an engine is reached over the network. -/

namespace CqlGateway

structure EndpointSettings where
  baseUrl : String
  core : String
  timeoutMs : Nat
  fields : HitFields
deriving DecidableEq, Repr

namespace EndpointSettings

def standard : EndpointSettings :=
  {
    baseUrl := "http://localhost:8983/solr"
    core := "bibdk"
    timeoutMs := 5000
    fields := .standard
  }

/-- The text without slashes at its end. -/
def withoutSlashes (url : String) : String :=
  String.ofList (url.toList.reverse.dropWhile (· = '/')).reverse

/-- The settings that an endpoint is made with. Something must be left of the address without
slashes at its end.
-/
def normalized? (settings : EndpointSettings) : Option EndpointSettings :=
  let baseUrl := withoutSlashes settings.baseUrl
  if baseUrl.isEmpty then none else some { settings with baseUrl := baseUrl }

/-- The address of searches. -/
def selectUrl (settings : EndpointSettings) : String :=
  settings.baseUrl ++ "/" ++ settings.core ++ "/select"

/-- The endpoint as it shows itself in print. -/
def describe (settings : EndpointSettings) : String :=
  "SolrEngine \x7b base_url: " ++ Text.quoted settings.baseUrl ++ ", core: "
    ++ Text.quoted settings.core ++ ", .. \x7d"

end EndpointSettings

end CqlGateway
