import CqlGateway.Compilation.Query
import CqlGateway.Proofs.Outcome

/-! What compilation fails with. The index of a clause may be unknown or of no use to queries of the
kind; everything else that can be wrong is wrong with what the query says of its indexes, and does
not depend on the kind.
-/

namespace CqlGateway

open Outcome

/-- True of errors about what a query says of its indexes: about relations, values, modifiers and
what `prox` joins.
-/
def CompilationError.isOfContent : CompilationError → Bool
  | .undefinedField _ => false
  | .wrongUsage .. => false
  | _ => true

/-- True of the error that searches may not use an index. -/
def CompilationError.isRefusalForSearch : CompilationError → Bool
  | .wrongUsage _ .search => true
  | _ => false

theorem CompilationError.not_isRefusalForSearch_of_isOfContent {error : CompilationError}
    (ofContent : error.isOfContent = true)
    : error.isRefusalForSearch = false := by
  cases error with
  | wrongUsage => cases ofContent
  | _ => rfl

/-- Fails only with errors about what a query says of its indexes. -/
abbrev FailsByContent {α : Type} (outcome : Except CompilationError α) : Prop :=
  FailsOnlyWith (fun error => error.isOfContent = true) outcome

-----------------------------------------------------------------------------------------
-- Modifiers
-----------------------------------------------------------------------------------------

namespace Modifier

theorem failsByContent_checkedName (modifier : Modifier)
    : FailsByContent modifier.checkedName := by
  unfold checkedName
  split
  · exact failsOnlyWith_ok _
  · exact failsOnlyWith_error rfl

theorem failsByContent_escaping (field : Escaping) (modifiers : List Modifier)
    : FailsByContent (escaping field modifiers) :=
  .foldlM fun modifier _ _ => (failsByContent_checkedName modifier).map _

theorem failsByContent_descending (modifiers : List Modifier)
    : FailsByContent (descending modifiers) :=
  .foldlM fun modifier _ _ => (failsByContent_checkedName modifier).map _

theorem failsByContent_slopOfDistance (modifier : Modifier)
    : FailsByContent (slopOfDistance modifier) := by
  fun_cases slopOfDistance modifier with
  | case1 | case2 | case6 | case7 => exact failsOnlyWith_error rfl
  | case3 | case4 | case5 => exact failsOnlyWith_ok _

theorem failsByContent_slop (modifiers : List Modifier) : FailsByContent (slop modifiers) := by
  refine .foldlM fun modifier _ held => ?_
  refine (failsByContent_checkedName modifier).bind fun name _ => ?_
  split
  · exact failsByContent_slopOfDistance modifier
  · exact failsByContent_slopOfDistance modifier
  · exact failsOnlyWith_ok held

end Modifier

-----------------------------------------------------------------------------------------
-- Clauses
-----------------------------------------------------------------------------------------

namespace ClauseTarget

variable (target : ClauseTarget) (value : String)

theorem failsByContent_check : FailsByContent (target.check value) := by
  unfold check
  split
  · exact failsOnlyWith_error rfl
  · exact failsOnlyWith_ok value

theorem failsByContent_term : FailsByContent (target.term value) :=
  (target.failsByContent_check value).map _

theorem failsByContent_someWords : FailsByContent (target.someWords value) := by
  unfold someWords
  split
  · exact failsOnlyWith_error rfl
  · exact failsOnlyWith_ok _

theorem failsByContent_exact : FailsByContent (target.exact value) := by
  unfold exact
  split
  · exact (target.failsByContent_someWords value).map _
  · exact target.failsByContent_term _

theorem failsByContent_equality : FailsByContent (target.equality value) := by
  fun_cases target.equality value with
  | case1 => exact failsOnlyWith_error rfl
  | case2 word single => exact target.failsByContent_term word
  | case3 => exact failsOnlyWith_ok _
  | case4 => exact target.failsByContent_term _

theorem failsByContent_eachWord : FailsByContent (target.eachWord value) :=
  (target.failsByContent_someWords value).bind fun _ _ =>
    .mapM fun word _ => target.failsByContent_term word

theorem failsByContent_bound : FailsByContent (target.bound value) :=
  target.failsByContent_check _

theorem failsByContent_within : FailsByContent (target.within value) := by
  unfold within
  split
  · next low high _ =>
      exact (target.failsByContent_bound low).bind fun _ _ =>
        (target.failsByContent_bound high).bind fun _ _ => failsOnlyWith_ok _
  · exact failsOnlyWith_error rfl

theorem failsByContent_compare (symbol : Comparison)
    : FailsByContent (target.compare symbol value) := by
  cases symbol with
  | equal => exact target.failsByContent_equality value
  | identical => exact target.failsByContent_exact value
  | different => exact (target.failsByContent_equality value).map _
  | less | atMost | greater | atLeast =>
      simp only [compare]
      exact (target.failsByContent_bound value).map _

theorem failsByContent_relate (relation : String)
    : FailsByContent (target.relate relation value) := by
  unfold relate
  split
  · exact target.failsByContent_exact value
  · exact target.failsByContent_exact value
  · exact (target.failsByContent_eachWord value).map _
  · exact (target.failsByContent_eachWord value).map _
  · exact target.failsByContent_within value
  · exact failsOnlyWith_error rfl

theorem failsByContent_query (relation : Relation)
    : FailsByContent (target.query relation value) := by
  cases relation with
  | comparison symbol => exact target.failsByContent_compare value symbol
  | named name => exact target.failsByContent_relate value name

end ClauseTarget

-----------------------------------------------------------------------------------------
-- Trees
-----------------------------------------------------------------------------------------

theorem failsByContent_ensureProximity (holds : Bool) (fault : ProximityFault)
    : FailsByContent (ensureProximity holds fault) := by
  unfold ensureProximity
  split
  · exact failsOnlyWith_ok ()
  · exact failsOnlyWith_error rfl

namespace Catalog

variable {catalog : Catalog} {kind : QueryKind}

/-- The index of the clause is refused with the error: it is unknown, or queries of the kind may not
use it.
-/
def RefusesIndex (catalog : Catalog) (kind : QueryKind) (clause : SearchClause)
    (error : CompilationError) : Prop :=
  catalog.resolve clause.index = .error error
  ∨ ∃ field,
    catalog.resolve clause.index = .ok field
    ∧ field.usage.allows kind = false
    ∧ error = .wrongUsage (catalog.indexName clause) kind

/-- Is about what the query says of its indexes, or refuses the index of one of the clauses. -/
def BlamesOneOf (catalog : Catalog) (kind : QueryKind) (clauses : List SearchClause)
    (error : CompilationError) : Prop :=
  error.isOfContent = true ∨ ∃ clause ∈ clauses, catalog.RefusesIndex kind clause error

theorem BlamesOneOf.mono {some all : List SearchClause} {error : CompilationError}
    (among : some ⊆ all) (blames : catalog.BlamesOneOf kind some error)
    : catalog.BlamesOneOf kind all error :=
  blames.imp_right fun ⟨clause, member, refused⟩ => ⟨clause, among member, refused⟩

theorem failsOnlyWith_resolve {clauses : List SearchClause} {clause : SearchClause}
    (member : clause ∈ clauses)
    : FailsOnlyWith (catalog.BlamesOneOf kind clauses) (catalog.resolve clause.index) :=
  fun _ failed => .inr ⟨clause, member, .inl failed⟩

theorem failsOnlyWith_usableField {clauses : List SearchClause} {clause : SearchClause}
    {field : EngineField} (member : clause ∈ clauses)
    (known : catalog.resolve clause.index = .ok field)
    : FailsOnlyWith (catalog.BlamesOneOf kind clauses)
        (catalog.usableField kind clause field) := by
  unfold usableField
  split
  · exact failsOnlyWith_ok ()
  · next unusable =>
      exact failsOnlyWith_error
        (.inr ⟨clause, member, .inr ⟨field, known, by simpa using unusable, rfl⟩⟩)

theorem failsOnlyWith_of_failsByContent {α : Type} {outcome : Except CompilationError α}
    (fails : FailsByContent outcome) (clauses : List SearchClause)
    : FailsOnlyWith (catalog.BlamesOneOf kind clauses) outcome :=
  fails.mono fun _ ofContent => .inl ofContent

theorem failsOnlyWith_clauseQuery (clause : SearchClause)
    : FailsOnlyWith (catalog.BlamesOneOf kind [clause]) (catalog.clauseQuery kind clause) := by
  have single : clause ∈ [clause] := List.mem_singleton_self clause
  refine .bind ?_ fun target _ =>
    failsOnlyWith_of_failsByContent (target.failsByContent_query clause.term clause.relation) _
  refine (failsOnlyWith_resolve single).bind fun field known => ?_
  refine (failsOnlyWith_usableField single known).bind fun _ _ => ?_
  exact (failsOnlyWith_of_failsByContent (Modifier.failsByContent_escaping _ _) _).bind fun _ _ =>
    failsOnlyWith_ok _

theorem failsOnlyWith_nearQuery (modifiers : List Modifier) (left right : SearchClause)
    : FailsOnlyWith (catalog.BlamesOneOf kind [left, right])
        (catalog.nearQuery kind modifiers left right) := by
  have isLeft : left ∈ [left, right] := List.mem_cons_self ..
  have isRight : right ∈ [left, right] := List.mem_cons_of_mem _ (List.mem_singleton_self right)
  have ensured (holds : Bool) (fault : ProximityFault)
      : FailsOnlyWith (catalog.BlamesOneOf kind [left, right]) (ensureProximity holds fault) :=
    failsOnlyWith_of_failsByContent (failsByContent_ensureProximity holds fault) _
  refine (failsOnlyWith_resolve isLeft).bind fun field leftKnown => ?_
  refine (failsOnlyWith_resolve isRight).bind fun rightField rightKnown => ?_
  refine (failsOnlyWith_usableField isLeft leftKnown).bind fun _ _ => ?_
  refine (failsOnlyWith_usableField isRight rightKnown).bind fun _ _ => ?_
  refine (ensured _ _).bind fun _ _ => (ensured _ _).bind fun _ _ => ?_
  refine (ensured _ _).bind fun _ _ => (ensured _ _).bind fun _ _ => ?_
  refine (failsOnlyWith_of_failsByContent (Modifier.failsByContent_slop modifiers) _).bind
    fun _ _ => ?_
  exact (ensured _ _).bind fun _ _ => failsOnlyWith_ok _

theorem failsOnlyWith_proximityQuery (modifiers : List Modifier) (left right : QueryTree)
    : FailsOnlyWith (catalog.BlamesOneOf kind (left.clauses ++ right.clauses))
        (catalog.proximityQuery kind modifiers left right) := by
  cases left with
  | boolean => exact failsOnlyWith_error (.inl rfl)
  | search left =>
      cases right with
      | boolean => exact failsOnlyWith_error (.inl rfl)
      | search right => exact failsOnlyWith_nearQuery modifiers left right

/-- A tree is refused for what it says of its indexes, or for the index of one of its clauses, by
induction on the tree.
-/
theorem failsOnlyWith_engineQuery (tree : QueryTree)
    : FailsOnlyWith (catalog.BlamesOneOf kind tree.clauses) (catalog.engineQuery kind tree) := by
  induction tree with
  | search clause =>
      rw [engineQuery]
      exact failsOnlyWith_clauseQuery clause
  | boolean operator modifiers left right leftFails rightFails =>
      rw [QueryTree.clauses]
      have ofLeft := leftFails.mono fun _ =>
        BlamesOneOf.mono (List.subset_append_left left.clauses right.clauses)
      have ofRight := rightFails.mono fun _ =>
        BlamesOneOf.mono (List.subset_append_right left.clauses right.clauses)
      cases operator with
      | prox =>
          rw [engineQuery]
          exact failsOnlyWith_proximityQuery modifiers left right
      | and | or | not =>
          rw [engineQuery]
          exact ofLeft.bind fun _ _ => ofRight.bind fun _ _ => failsOnlyWith_ok _

end Catalog

end CqlGateway
