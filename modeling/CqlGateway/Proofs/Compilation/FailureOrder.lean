import CqlGateway.Proofs.Catalog.Entries
import CqlGateway.Proofs.Compilation.KindDetection

/-! Which of several faults of a query is reported. The indexes of all clauses are looked up first,
then the parts of the query are put into the engine's terms from left to right, and then the sort
keys. Each of the three stops at its first failure, and the profile has no part in it.
-/

namespace CqlGateway

open Outcome

-----------------------------------------------------------------------------------------
-- Catalogs
-----------------------------------------------------------------------------------------

theorem Modifier.checkedName_eq_error {modifier : Modifier} {error : CompilationError}
    : modifier.checkedName = .error error
      ↔ ¬ modifier.IsNamed ∧ error = .malformedModifier modifier .malformedName := by
  unfold checkedName IsNamed
  split <;> simp [*, eq_comm]

namespace Catalog

variable {catalog : Catalog} {profile : Profile} {kind : QueryKind} {clause : SearchClause}
  {tree : QueryTree} {query : CqlQuery} {key : SortKey} {error : CompilationError}

/-- The catalog is one that there can be: the standard one, or one that was made of entries. -/
def IsMade (catalog : Catalog) : Prop :=
  catalog = .standard
  ∨ ∃ defaultIndex collectionIndex entries,
    ofEntries defaultIndex collectionIndex entries = .ok catalog

/-- The default index of a catalog is found, since it is kept in lower case. -/
theorem IsMade.exists_default (made : catalog.IsMade)
    : ∃ field, catalog.field? catalog.defaultIndex = some field := by
  have kept : catalog.IsKept := by
    rcases made with rfl | ⟨defaultIndex, collectionIndex, entries, made⟩
    · exact isKept_standard
    · exact isKept_of_ofEntries_eq_ok made
  rw [field?, kept.lowercase_eq catalog.has_default]
  exact Option.isSome_iff_exists.mp catalog.has_default

theorem resolve_eq_error
    : catalog.resolve clause.index = .error error
      ↔ catalog.field? (catalog.indexName clause) = none
        ∧ error = .undefinedField (catalog.indexName clause) := by
  rw [resolve, indexName]
  cases catalog.field? (clause.index.getD catalog.defaultIndex) <;> simp [eq_comm]

/-- An unknown index is one that the clause names. -/
theorem IsMade.index_eq_some (made : catalog.IsMade)
    (unknown : catalog.field? (catalog.indexName clause) = none)
    : clause.index = some (catalog.indexName clause) := by
  cases named : clause.index with
  | some index => rw [indexName, named, Option.getD_some]
  | none =>
      obtain ⟨field, found⟩ := made.exists_default
      rw [indexName, named, Option.getD_none, found] at unknown
      cases unknown

-----------------------------------------------------------------------------------------
-- Parts and trees
-----------------------------------------------------------------------------------------

/-- A part of a query in the engine's terms. -/
def unitQuery (catalog : Catalog) (kind : QueryKind)
    : QueryUnit → Except CompilationError EngineQuery
  | .clause clause => catalog.clauseQuery kind clause
  | .near modifiers left right => catalog.proximityQuery kind modifiers left right

/-- A tree fails as its first part that fails, by induction on the tree. -/
theorem error?_engineQuery (catalog : Catalog) (kind : QueryKind) (tree : QueryTree)
    : error? (catalog.engineQuery kind tree) = firstError? (catalog.unitQuery kind) tree.units := by
  induction tree with
  | search clause => rw [engineQuery, QueryTree.units, firstError?_singleton, unitQuery]
  | boolean operator modifiers left right leftFirst rightFirst =>
      by_cases near : operator = .prox
      · subst operator
        rw [engineQuery, QueryTree.units, firstError?_singleton, unitQuery]
      · have fromRight (leftQuery : EngineQuery)
            (_ : catalog.engineQuery kind left = .ok leftQuery)
            : error? (catalog.engineQuery kind right >>= fun rightQuery =>
                pure (joinedBy operator leftQuery rightQuery))
              = firstError? (catalog.unitQuery kind) right.units := by
          rw [← rightFirst]
          exact error?_map (catalog.engineQuery kind right) (joinedBy operator leftQuery)
        rw [engineQuery_joinedBy near, error?_bind fromRight, leftFirst, units_boolean near,
          firstError?_append]

/-- The kind of a query is detected unless an index is unknown; then the first such index is what is
wrong.
-/
theorem error?_kindOf (catalog : Catalog) (tree : QueryTree)
    : error? (catalog.kindOf tree)
      = firstError? (fun clause => catalog.resolve clause.index) tree.clauses := by
  have known (held : QueryKind) (clause : SearchClause)
      : error? (catalog.kindAfter held clause) = error? (catalog.resolve clause.index) :=
    error?_map (catalog.resolve clause.index) _
  exact error?_foldlM known .search

-----------------------------------------------------------------------------------------
-- Sort keys
-----------------------------------------------------------------------------------------

/-- Nothing is wrong with a sort key: its index is known, and the names of its modifiers are well
formed.
-/
structure CanSort (catalog : Catalog) (key : SortKey) : Prop where
  index : ∃ field, catalog.field? key.index = some field
  modifiers : ∀ modifier ∈ key.modifiers, modifier.IsNamed

/-- What is wrong with a sort key: its index is unknown, or else its first modifier whose name is
not well formed.
-/
inductive BlamesKey (catalog : Catalog) (key : SortKey) : CompilationError → Prop where
  | unknown (none : catalog.field? key.index = none)
      : BlamesKey catalog key (.undefinedField key.index)
  | misnamed {field : EngineField} {front rest : List Modifier} {modifier : Modifier}
      (found : catalog.field? key.index = some field)
      (parts : key.modifiers = front ++ modifier :: rest)
      (named : ∀ earlier ∈ front, earlier.IsNamed) (notNamed : ¬ modifier.IsNamed)
      : BlamesKey catalog key (.malformedModifier modifier .malformedName)

theorem error?_sortField (catalog : Catalog) (key : SortKey)
    : error? (catalog.sortField key)
      = (error? (catalog.resolve (some key.index))).or
          (firstError? Modifier.checkedName key.modifiers) := by
  have ordered (field : EngineField) (_ : catalog.resolve (some key.index) = .ok field)
      : error? (Modifier.descending key.modifiers >>= fun descending =>
          pure (SortField.mk field.name descending))
        = firstError? Modifier.checkedName key.modifiers := by
    refine (error?_map (Modifier.descending key.modifiers) (SortField.mk field.name)).trans ?_
    exact error?_foldlM (fun _ modifier => error?_map modifier.checkedName _) false
  exact error?_bind ordered

theorem exists_sortField_eq_ok
    : (∃ sortField, catalog.sortField key = .ok sortField) ↔ catalog.CanSort key := by
  rw [← error?_eq_none, error?_sortField, Option.or_eq_none_iff, firstError?_eq_none,
    error?_eq_none]
  simp only [Modifier.exists_checkedName_eq_ok, resolve_some_eq_ok]
  constructor
  · rintro ⟨known, named⟩
    exact ⟨known, named⟩
  · intro sorts
    exact ⟨sorts.index, sorts.modifiers⟩

theorem blamesKey_of_sortField (failed : catalog.sortField key = .error error)
    : catalog.BlamesKey key error := by
  have reported := error?_eq_some.mpr failed
  rw [error?_sortField] at reported
  cases found : catalog.field? key.index with
  | none =>
      obtain rfl : .undefinedField key.index = error := by
        simpa [resolve, found, error?] using reported
      exact .unknown found
  | some field =>
      have misnamed : firstError? Modifier.checkedName key.modifiers = some error := by
        simpa [resolve, found, error?] using reported
      obtain ⟨modifier, front, rest, parts, named, refused⟩ := exists_failsFirst misnamed
      obtain ⟨notNamed, rfl⟩ := Modifier.checkedName_eq_error.mp refused
      exact .misnamed found parts
        (fun earlier member => Modifier.exists_checkedName_eq_ok.mp (named earlier member)) notNamed

-----------------------------------------------------------------------------------------
-- Whole queries
-----------------------------------------------------------------------------------------

theorem error?_compileAs (catalog : Catalog) (profile : Profile) (kind : QueryKind)
    (query : CqlQuery)
    : error? (catalog.compileAs profile kind query)
      = (firstError? (catalog.unitQuery kind) query.root.units).or
          (firstError? catalog.sortField (query.sort.getD [])) := by
  have sorted (user : EngineQuery) (_ : catalog.engineQuery kind query.root = .ok user)
      : error? ((query.sort.getD []).mapM catalog.sortField >>= fun sort =>
          pure (CompiledQuery.mk kind (.conjunction [user, profile.filter kind]) sort))
        = firstError? catalog.sortField (query.sort.getD []) := by
    rw [← error?_mapM]
    exact error?_map _ (CompiledQuery.mk kind (.conjunction [user, profile.filter kind]))
  rw [← error?_engineQuery]
  exact error?_bind sorted

theorem sort_of_compileAs {compiled : CompiledQuery}
    (found : catalog.compileAs profile kind query = .ok compiled)
    : (query.sort.getD []).mapM catalog.sortField = .ok compiled.sort := by
  obtain ⟨user, -, found⟩ := bind_eq_ok.mp found
  obtain ⟨sort, sorted, found⟩ := bind_eq_ok.mp found
  rw [sorted, ← pure_eq_ok.mp found]

/-- Every part of the tree has an engine query in queries of the kind. -/
def AcceptsUnits (catalog : Catalog) (kind : QueryKind) (tree : QueryTree) : Prop :=
  ∀ unit ∈ tree.units, ∃ accepted, catalog.unitQuery kind unit = .ok accepted

/-- What is reported of a query that is compiled as a kind: the first part that is refused, or else
the first sort key that is; or else nothing, and each sort key has become a sort field.
-/
structure ReportsInOrder (catalog : Catalog) (profile : Profile) (kind : QueryKind)
    (query : CqlQuery) : Prop where
  unit
    : ¬ catalog.AcceptsUnits kind query.root
      → ∃ unit error,
        FailsFirst (catalog.unitQuery kind) query.root.units unit error
        ∧ (∀ index, error ≠ .undefinedField index)
        ∧ catalog.compile profile query = .error error
  sortKey
    : catalog.AcceptsUnits kind query.root
      → ¬ (∀ key ∈ query.sort.getD [], catalog.CanSort key)
      → ∃ key error,
        FailsFirst catalog.sortField (query.sort.getD []) key error
        ∧ catalog.BlamesKey key error
        ∧ catalog.compile profile query = .error error
  nothing
    : catalog.AcceptsUnits kind query.root
      → (∀ key ∈ query.sort.getD [], catalog.CanSort key)
      → ∃ compiled,
        catalog.compile profile query = .ok compiled
        ∧ (query.sort.getD []).map catalog.sortField = compiled.sort.map .ok

/-- A tree whose indexes are known is not refused for an unknown one. -/
theorem Knows.engineQuery_ne_undefinedField (known : catalog.Knows tree) (index : String)
    : catalog.engineQuery kind tree ≠ .error (.undefinedField index) := by
  intro failed
  rcases failsOnlyWith_engineQuery tree _ failed with ofContent | ⟨clause, member, refused⟩
  · cases ofContent
  · obtain ⟨field, found⟩ := known clause member
    rcases refused with unknown | ⟨_, -, -, other⟩
    · cases found.symm.trans unknown
    · cases other

/-- A query whose kind is detected reports what it reports when it is compiled as that kind. -/
theorem reportsInOrder_of_kindOf (detected : catalog.kindOf query.root = .ok kind)
    : catalog.ReportsInOrder profile kind query := by
  have known := (kindOf_eq_ok_iff.mp detected).1
  have compiledAs : error? (catalog.compile profile query)
      = (firstError? (catalog.unitQuery kind) query.root.units).or
          (firstError? catalog.sortField (query.sort.getD [])) := by
    rw [← error?_compileAs catalog profile, compile, detected]
    rfl
  refine ⟨?_, ?_, ?_⟩
  · intro refused
    obtain ⟨unit, error, first⟩ := exists_failsFirst_of_fails refused
    have reported := first.firstError?
    refine ⟨unit, error, first, ?_, ?_⟩
    · rintro index rfl
      rw [← error?_engineQuery, error?_eq_some] at reported
      exact known.engineQuery_ne_undefinedField index reported
    · rw [← error?_eq_some, compiledAs, reported, Option.some_or]
  · intro accepted refused
    have unsorted : ¬ ∀ key ∈ query.sort.getD [],
        ∃ sortField, catalog.sortField key = .ok sortField := by
      simpa only [exists_sortField_eq_ok] using refused
    obtain ⟨key, error, first⟩ := exists_failsFirst_of_fails unsorted
    refine ⟨key, error, first, blamesKey_of_sortField first.eq_error, ?_⟩
    rw [← error?_eq_some, compiledAs, firstError?_eq_none.mpr accepted, first.firstError?,
      Option.none_or]
  · intro accepted sorts
    have sorted : firstError? catalog.sortField (query.sort.getD []) = none := by
      simpa only [firstError?_eq_none, exists_sortField_eq_ok] using sorts
    rw [firstError?_eq_none.mpr accepted, sorted, Option.none_or, error?_eq_none] at compiledAs
    obtain ⟨compiled, found⟩ := compiledAs
    exact ⟨compiled, found, mapM_eq_ok_iff.mp (sort_of_compileAs (compile_eq_ok found).2)⟩

/-- Every query reports its first fault in this order, whatever else is wrong with it and whatever
the profile is: the first clause whose index is unknown, which is an index that the clause names;
then, in queries of the kind that is detected, the first part that is refused, which is not for an
unknown index; then the first sort key that is. A query with none of these is compiled, with a sort
field for each sort key.
-/
theorem compile_reports_in_order (catalog : Catalog) (profile : Profile) (query : CqlQuery)
    : (¬ catalog.Knows query.root
        → ∃ clause,
          FailsFirst (fun clause => catalog.resolve clause.index) query.root.clauses clause
            (.undefinedField (catalog.indexName clause))
          ∧ (catalog.IsMade → clause.index = some (catalog.indexName clause))
          ∧ catalog.compile profile query
            = .error (.undefinedField (catalog.indexName clause)))
      ∧ (catalog.Knows query.root
        → ∃ kind,
          catalog.kindOf query.root = .ok kind ∧ catalog.ReportsInOrder profile kind query) := by
  constructor
  · intro unknown
    have reported := error?_kindOf catalog query.root
    obtain ⟨clause, error, first⟩ := exists_failsFirst_of_fails unknown
    obtain ⟨none, rfl⟩ := resolve_eq_error.mp first.eq_error
    rw [first.firstError?, error?_eq_some] at reported
    refine ⟨clause, first, fun made => made.index_eq_some none, ?_⟩
    rw [compile, reported]
    rfl
  · intro known
    have detected : ∃ kind, catalog.kindOf query.root = .ok kind := by
      rw [← error?_eq_none, error?_kindOf, firstError?_eq_none]
      exact known
    obtain ⟨kind, detected⟩ := detected
    exact ⟨kind, detected, reportsInOrder_of_kindOf detected⟩

/-- A value that is no number, in front of an index near what is no clause, with an unknown sort
key.
-/
def manyFaults (index : String) : CqlQuery :=
  {
    root := .boolean .or []
      (.search { SearchClause.bare "x" 0 with index := some "year" })
      (.boolean .prox []
        (.search { SearchClause.bare "a" 5 with index := some index })
        (.boolean .and [] (.search (.bare "b" 12)) (.search (.bare "c" 18))))
    sort := some [{ index := "nowhere", modifiers := [] }]
  }

/-- The unknown index is reported although it stands behind the value, and the value if the index is
known.
-/
theorem compile_reports_in_order_manyFaults
    : standard.IsMade
      ∧ ¬ standard.Knows (manyFaults "Nope").root
      ∧ standard.compile .unrestricted (manyFaults "Nope") = .error (.undefinedField "Nope")
      ∧ standard.Knows (manyFaults "Title").root
      ∧ standard.compile .unrestricted (manyFaults "Title")
        = .error (.invalidValue "year" "x" .notNumber) := by
  have made : standard.IsMade := .inl rfl
  have unknown : firstError? (fun clause => standard.resolve clause.index)
      (manyFaults "Nope").root.clauses = some (.undefinedField "Nope") := by
    decide +kernel
  have notKnown : ¬ standard.Knows (manyFaults "Nope").root := by
    intro known
    rw [firstError?_eq_none.mpr known] at unknown
    cases unknown
  have known : standard.Knows (manyFaults "Title").root :=
    firstError?_eq_none.mp (by decide +kernel)
  have search : standard.kindOf (manyFaults "Title").root = .ok .search :=
    Outcome.toOption_eq_some.mp (by decide +kernel)
  have refused : firstError? (standard.unitQuery .search) (manyFaults "Title").root.units
      = some (.invalidValue "year" "x" .notNumber) := by
    decide +kernel
  have notAccepted : ¬ standard.AcceptsUnits .search (manyFaults "Title").root := by
    intro accepted
    rw [firstError?_eq_none.mpr accepted] at refused
    cases refused
  refine ⟨made, notKnown, ?_, known, ?_⟩
  · obtain ⟨clause, first, -, failed⟩ :=
      (compile_reports_in_order standard .unrestricted (manyFaults "Nope")).1 notKnown
    rw [failed]
    exact congrArg Except.error (Option.some.inj (first.firstError?.symm.trans unknown))
  · obtain ⟨kind, detected, reports⟩ :=
      (compile_reports_in_order standard .unrestricted (manyFaults "Title")).2 known
    obtain rfl := Except.ok.inj (search.symm.trans detected)
    obtain ⟨unit, error, first, -, failed⟩ := reports.unit notAccepted
    rw [failed]
    exact congrArg Except.error (Option.some.inj (first.firstError?.symm.trans refused))

end Catalog

end CqlGateway
