import CqlGateway.Profile.Basic

/-! All profiles by name. -/

namespace CqlGateway

/-- A name that several profiles have. -/
structure DuplicateProfile where
  name : String
deriving DecidableEq, Repr

abbrev ProfileRegistry := NameMap Profile

namespace ProfileRegistry

/-- Adds the profile of a declaration, whose name must be new. -/
def add (catalog : Catalog) (registry : ProfileRegistry) (declaration : ProfileDeclaration)
    : Except DuplicateProfile ProfileRegistry :=
  if NameMap.contains registry declaration.name then
    .error ⟨declaration.name⟩
  else
    .ok (NameMap.insert registry declaration.name (.ofDeclaration catalog declaration))

/-- The profiles of all declarations. -/
def ofDeclarations (catalog : Catalog) (declarations : List ProfileDeclaration)
    : Except DuplicateProfile ProfileRegistry :=
  declarations.foldlM (add catalog) []

end ProfileRegistry

end CqlGateway
