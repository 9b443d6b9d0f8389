import CqlGateway.Proofs.Outcome
import CqlGateway.Proofs.Profile.Declared
import CqlGateway.Settings.Use

/-! Each declaration has its own name in a registry, and its own profile under that name. -/

namespace CqlGateway

open Outcome

namespace ProfileRegistry

variable {catalog : Catalog} {declarations : List ProfileDeclaration} {registry : ProfileRegistry}

theorem addsNew_add (catalog : Catalog)
    : NameMap.AddsNew (·.name) (Profile.ofDeclaration catalog) (DuplicateProfile.mk ·.name)
        (add catalog) := by
  intro registry declaration
  rfl

/-- Declarations are made into a registry if and only if their names differ. -/
theorem exists_ofDeclarations_eq_ok
    : (∃ registry, ofDeclarations catalog declarations = .ok registry)
      ↔ (declarations.map (·.name)).Nodup :=
  (addsNew_add catalog).exists_foldlM_eq_ok

/-- What is refused is a name that several declarations have. -/
theorem failsOnlyWith_repeated (catalog : Catalog) (declarations : List ProfileDeclaration)
    : FailsOnlyWith (fun duplicate => 2 ≤ (declarations.map (·.name)).count duplicate.name)
        (ofDeclarations catalog declarations) := by
  refine FailsOnlyWith.mono ((addsNew_add catalog).failsOnlyWith_repeated declarations) ?_
  intro duplicate refused
  obtain ⟨declaration, -, rfl, twice⟩ := refused
  exact twice

/-- In a registry each declaration is found under its name, and other names are unknown. -/
structure HoldsEach (registry : ProfileRegistry) (catalog : Catalog)
    (declarations : List ProfileDeclaration)
    : Prop where
  declared : ∀ declaration ∈ declarations,
    registry.profile declaration.name = .ok (.ofDeclaration catalog declaration)
  unknown : ∀ name ∉ declarations.map (·.name),
    registry.profile name = .error (.unknownProfile name)

theorem holdsEach_of_ofDeclarations_eq_ok
    (made : ofDeclarations catalog declarations = .ok registry)
    : registry.HoldsEach catalog declarations where
  declared := by
    intro declaration member
    rw [profile, (addsNew_add catalog).lookup?_of_mem made member]
  unknown := by
    intro name absent
    rw [profile, ((addsNew_add catalog).lookup?_eq_none_iff made).mpr absent]

end ProfileRegistry

-----------------------------------------------------------------------------------------
-- Profiles and what was declared
-----------------------------------------------------------------------------------------

namespace Profile

/-- Every profile shows what was declared, and two declarations have the same profile if and only if
they declare the same. A registry is made exactly of declarations whose names differ, and has the
profile of each under its name.
-/
theorem ofDeclaration_determined_by_declared (catalog : Catalog)
    : (∀ declaration, (ofDeclaration catalog declaration).Shows catalog declaration)
      ∧ (∀ left right,
        ofDeclaration catalog left = ofDeclaration catalog right ↔ left.DeclareSame right)
      ∧ ∀ declarations,
        ((∃ registry, ProfileRegistry.ofDeclarations catalog declarations = .ok registry)
          ↔ (declarations.map (·.name)).Nodup)
        ∧ ∀ registry,
          ProfileRegistry.ofDeclarations catalog declarations = .ok registry
          → registry.HoldsEach catalog declarations := by
  refine ⟨shows_ofDeclaration catalog, fun left right => ofDeclaration_eq_iff, ?_⟩
  intro declarations
  exact ⟨ProfileRegistry.exists_ofDeclarations_eq_ok, fun registry =>
    ProfileRegistry.holdsEach_of_ofDeclarations_eq_ok⟩

/-- A profile of a collection that one source lets be searched and another relates. -/
def splitSources : ProfileDeclaration :=
  {
    name := "p"
    sources := [
      .searched "c" [],
      { collection := "d", searchable := false, relations := [] },
      { collection := "c", searchable := false, relations := ["part", "part"] }
    ]
  }

/-- The same in one source. -/
def joinedSources : ProfileDeclaration :=
  {
    name := "p"
    sources := [.searched "c" ["part"]]
  }

theorem ofDeclaration_determined_by_declared_splitSources
    : ofDeclaration .standard splitSources = ofDeclaration .standard joinedSources
      ∧ ∃ registry,
        ProfileRegistry.ofDeclarations .standard [splitSources] = .ok registry
        ∧ registry.profile "p" = .ok (ofDeclaration .standard joinedSources) := by
  obtain ⟨-, same, registered⟩ := ofDeclaration_determined_by_declared .standard
  have equal : ofDeclaration .standard splitSources = ofDeclaration .standard joinedSources := by
    apply (same splitSources joinedSources).mpr
    constructor
    · rfl
    · simp [ProfileDeclaration.MaySearch, splitSources, joinedSources, SourceDeclaration.searched]
    · simp [ProfileDeclaration.Relates, splitSources, joinedSources, SourceDeclaration.searched]
  obtain ⟨registry, made⟩ := (registered [splitSources]).1.mpr (List.nodup_singleton _)
  have held := (registered [splitSources]).2 registry made
  refine ⟨equal, registry, made, ?_⟩
  rw [← equal]
  exact held.declared splitSources (List.mem_singleton_self _)

end Profile

end CqlGateway
