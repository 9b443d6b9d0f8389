import CqlGateway.Proofs.Compilation.AccessFilter

/-! Compiled queries are in normal form: what the user asks for is, the filter of a profile is, and
joining them keeps it.
-/

namespace CqlGateway.Catalog

variable {catalog : Catalog} {profile : Profile} {kind : QueryKind} {query : CqlQuery}
  {compiled : CompiledQuery}

/-- A compiled query is in normal form and flat, and so is what the user asks for without the
filter. The profile may have been made for another catalog.
-/
theorem compileAs_isNormal {profileCatalog : Catalog} (made : profile.IsMadeFor profileCatalog)
    (found : catalog.compileAs profile kind query = .ok compiled)
    : (compiled.query.IsNormal ∧ compiled.query.isFlat = true)
      ∧ ∃ user,
        catalog.engineQuery kind query.root = .ok user
        ∧ user.IsNormal
        ∧ user.isFlat = true := by
  obtain ⟨user, accepted, joined⟩ := compileAs_eq_ok found
  have userNormal := (engineQuery_eq_ok accepted).normal
  have filterNormal := (Profile.isFilter_filter made kind).normal
  have normal : compiled.query.IsNormal := by
    rw [joined]
    exact .conjunction (by simpa using ⟨userNormal, filterNormal⟩)
  exact ⟨⟨normal, normal.isFlat⟩, user, accepted, userNormal, userNormal.isFlat⟩

/-- Conjunctions in conjunctions, and a negation of a difference, in which two negations cancel out.
-/
def nestedJoins : CqlQuery :=
  {
    root :=
      .boolean .not []
        (.boolean .and [] (titleClause (.comparison .equal) "a")
          (.boolean .and [] (titleClause (.named "all") "b c") (titleClause (.named "any") "d e")))
        (titleClause (.comparison .different) "f")
    sort := none
  }

theorem compileAs_isNormal_nestedJoins
    : branches.IsMadeFor titles
      ∧ ∃ compiled,
        titles.compileAs branches .search nestedJoins = .ok compiled
        ∧ (compiled.query.IsNormal ∧ compiled.query.isFlat = true)
        ∧ ∃ user,
          titles.engineQuery .search nestedJoins.root = .ok user
          ∧ user.IsNormal
          ∧ user.isFlat = true := by
  have made : branches.IsMadeFor titles := .inr ⟨_, rfl⟩
  have found : titles.compileAs branches .search nestedJoins
      = .ok {
        kind := .search
        query := .and [
          .term "term.title" .masked "a",
          .term "term.title" .masked "b",
          .term "term.title" .masked "c",
          .or [.term "term.title" .masked "d", .term "term.title" .masked "e"],
          .term "term.title" .masked "f",
          .or [.term "term.title" .masked "north", .term "term.title" .masked "south"]
        ]
        sort := []
      } := by
    rfl
  exact ⟨made, _, found, compileAs_isNormal made found⟩

end CqlGateway.Catalog
