import CqlGateway.Catalog.Basic
import CqlGateway.Index.Endpoint
import CqlGateway.Profile.Declaration
import CqlGateway.Query.Keyword
import CqlGateway.Works.Batch

/-! All that can be set: the engine, the catalog, the profiles, the words of queries and the size of
batches.
-/

namespace CqlGateway

structure Settings where
  endpoint : EndpointSettings
  /-- Without it the standard catalog is used. -/
  catalog : Option CatalogSettings
  profiles : List ProfileDeclaration
  keywords : KeywordSettings
  paging : BatchPolicy
deriving DecidableEq

def Settings.standard : Settings :=
  {
    endpoint := .standard
    catalog := none
    profiles := []
    keywords := .standard
    paging := .standard
  }

end CqlGateway
