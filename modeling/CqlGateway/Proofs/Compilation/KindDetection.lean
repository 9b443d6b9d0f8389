import CqlGateway.Proofs.Compilation.Failure
import CqlGateway.Proofs.Compilation.Subtrees

/-! A query is compiled as what its fields make it. The kind decides which fields a query may use
and which filter it gets, and nothing else of what it is compiled to; so a query can be compiled as
the kind that is detected if it can be compiled at all.
-/

namespace CqlGateway.Catalog

open Outcome

variable {catalog : Catalog} {profile : Profile} {kind other : QueryKind} {clause : SearchClause}
  {tree : QueryTree} {query : CqlQuery}

/-- The index of the clause is known, and queries of the kind may use it. -/
def Allows (catalog : Catalog) (kind : QueryKind) (clause : SearchClause) : Prop :=
  ∃ field, catalog.resolve clause.index = .ok field ∧ field.usage.allows kind = true

/-- All indexes of the tree are known, and queries of the kind may use them. -/
def AllowsAll (catalog : Catalog) (kind : QueryKind) (tree : QueryTree) : Prop :=
  ∀ clause ∈ tree.clauses, catalog.Allows kind clause

-----------------------------------------------------------------------------------------
-- What the kind decides
-----------------------------------------------------------------------------------------

theorem usableField_of_allows {field : EngineField} (allowed : catalog.Allows kind clause)
    (known : catalog.resolve clause.index = .ok field)
    : catalog.usableField kind clause field = .ok () := by
  obtain ⟨same, alsoKnown, usable⟩ := allowed
  cases known.symm.trans alsoKnown
  rw [usableField, if_pos usable]

/-- A clause that queries of both kinds allow is matched against the same field. -/
theorem target_congr (allowed : catalog.Allows kind clause) (also : catalog.Allows other clause)
    : catalog.target kind clause = catalog.target other clause := by
  obtain ⟨field, known, -⟩ := id allowed
  simp only [target, known, bind, Except.bind, usableField_of_allows allowed known,
    usableField_of_allows also known]

theorem nearQuery_congr {left right : SearchClause} (modifiers : List Modifier)
    (leftAllowed : catalog.Allows kind left) (leftAlso : catalog.Allows other left)
    (rightAllowed : catalog.Allows kind right) (rightAlso : catalog.Allows other right)
    : catalog.nearQuery kind modifiers left right
      = catalog.nearQuery other modifiers left right := by
  obtain ⟨field, known, -⟩ := id leftAllowed
  obtain ⟨rightField, rightKnown, -⟩ := id rightAllowed
  simp only [nearQuery, known, rightKnown, bind, Except.bind,
    usableField_of_allows leftAllowed known, usableField_of_allows leftAlso known,
    usableField_of_allows rightAllowed rightKnown, usableField_of_allows rightAlso rightKnown]

theorem proximityQuery_congr {left right : QueryTree} (modifiers : List Modifier)
    (leftAllowed : catalog.AllowsAll kind left) (leftAlso : catalog.AllowsAll other left)
    (rightAllowed : catalog.AllowsAll kind right) (rightAlso : catalog.AllowsAll other right)
    : catalog.proximityQuery kind modifiers left right
      = catalog.proximityQuery other modifiers left right := by
  cases left with
  | boolean => rfl
  | search left =>
      cases right with
      | boolean => rfl
      | search right =>
          have isLeft : left ∈ (QueryTree.search left).clauses := List.mem_singleton_self left
          have isRight : right ∈ (QueryTree.search right).clauses := List.mem_singleton_self right
          exact nearQuery_congr modifiers (leftAllowed left isLeft) (leftAlso left isLeft)
            (rightAllowed right isRight) (rightAlso right isRight)

/-- The kind has no other part in a tree than to allow its clauses, by induction on the tree. -/
theorem engineQuery_congr (allowed : catalog.AllowsAll kind tree)
    (also : catalog.AllowsAll other tree)
    : catalog.engineQuery kind tree = catalog.engineQuery other tree := by
  induction tree with
  | search clause =>
      have single : clause ∈ (QueryTree.search clause).clauses := List.mem_singleton_self clause
      rw [engineQuery, engineQuery, clauseQuery, clauseQuery,
        target_congr (allowed clause single) (also clause single)]
  | boolean operator modifiers left right leftSame rightSame =>
      obtain ⟨leftAllowed, rightAllowed⟩ := List.forall_mem_append.mp allowed
      obtain ⟨leftAlso, rightAlso⟩ := List.forall_mem_append.mp also
      cases operator with
      | prox =>
          rw [engineQuery, engineQuery]
          exact proximityQuery_congr modifiers leftAllowed leftAlso rightAllowed rightAlso
      | and | or | not =>
          simp only [engineQuery, leftSame leftAllowed leftAlso, rightSame rightAllowed rightAlso]

theorem allows_of_target {target : ClauseTarget}
    (found : catalog.target kind clause = .ok target)
    : catalog.Allows kind clause := by
  obtain ⟨field, known, found⟩ := bind_eq_ok.mp found
  obtain ⟨_, usable, -⟩ := bind_eq_ok.mp found
  exact ⟨field, known, usableField_eq_ok usable⟩

/-- Every clause of an accepted tree is allowed, by induction on the tree. -/
theorem allowsAll_of_accepts (accepted : catalog.Accepts kind tree)
    : catalog.AllowsAll kind tree := by
  induction tree with
  | search clause =>
      obtain ⟨query, found⟩ := accepted
      rw [engineQuery] at found
      obtain ⟨target, known, -⟩ := bind_eq_ok.mp found
      exact List.forall_mem_singleton.mpr (allows_of_target known)
  | boolean operator modifiers left right leftAllows rightAllows =>
      by_cases join : operator = .prox
      · subst operator
        obtain ⟨first, second, field, rightField, rfl, rfl, leftNear, rightNear, -⟩ :=
          joinsWords_of_accepts accepted
        exact List.forall_mem_append.mpr
          ⟨List.forall_mem_singleton.mpr ⟨field, leftNear.field_eq, leftNear.usage⟩,
            List.forall_mem_singleton.mpr ⟨rightField, rightNear.field_eq, rightNear.usage⟩⟩
      · obtain ⟨query, found⟩ := accepted
        obtain ⟨leftQuery, rightQuery, fromLeft, fromRight, -⟩ := boolean_eq_ok join found
        exact List.forall_mem_append.mpr
          ⟨leftAllows ⟨leftQuery, fromLeft⟩, rightAllows ⟨rightQuery, fromRight⟩⟩

-----------------------------------------------------------------------------------------
-- The kind that is detected
-----------------------------------------------------------------------------------------

/-- All indexes of the tree are known. -/
def Knows (catalog : Catalog) (tree : QueryTree) : Prop :=
  ∀ clause ∈ tree.clauses, ∃ field, catalog.resolve clause.index = .ok field

theorem AllowsAll.knows (allowed : catalog.AllowsAll kind tree) : catalog.Knows tree := by
  intro clause member
  obtain ⟨field, known, -⟩ := allowed clause member
  exact ⟨field, known⟩

/-- What a clause makes of the kind: it stays a search if searches may use the index. -/
theorem kindAfter_eq_ok_iff {held : QueryKind}
    : catalog.kindAfter held clause = .ok kind
      ↔ (∃ field, catalog.resolve clause.index = .ok field)
        ∧ (kind = .search ↔ held = .search ∧ catalog.Allows .search clause) := by
  unfold kindAfter Allows
  cases catalog.resolve clause.index with
  | error error => simp [Except.map]
  | ok field =>
      cases kind
      all_goals
        cases held
        all_goals
          cases usable : field.usage.allows .search
          all_goals simp [Except.map, usable]

/-- What some clauses make of the kind: it stays a search if searches may use all of them. By
induction on the clauses.
-/
theorem foldlM_kindAfter_eq_ok_iff {clauses : List SearchClause} {held : QueryKind}
    : clauses.foldlM catalog.kindAfter held = .ok kind
      ↔ (∀ clause ∈ clauses, ∃ field, catalog.resolve clause.index = .ok field)
        ∧ (kind = .search
          ↔ held = .search ∧ ∀ clause ∈ clauses, catalog.Allows .search clause) := by
  induction clauses generalizing held with
  | nil =>
      cases kind
      all_goals
        cases held
        all_goals simp [pure, Except.pure]
  | cons clause rest ih =>
      simp only [List.foldlM_cons, bind_eq_ok, List.forall_mem_cons, kindAfter_eq_ok_iff, ih]
      constructor
      · rintro ⟨next, ⟨known, first⟩, allKnown, others⟩
        exact ⟨⟨known, allKnown⟩, by rw [others, first, and_assoc]⟩
      · rintro ⟨⟨known, allKnown⟩, same⟩
        by_cases first : held = .search ∧ catalog.Allows .search clause
        · exact ⟨.search, ⟨known, by simp [first]⟩, allKnown, by simp [same, first]⟩
        · refine ⟨.relation, ⟨known, by simp [first]⟩, allKnown, ?_⟩
          rw [same, ← and_assoc]
          simp [first]

/-- A query is a search if searches may use all of its fields. -/
theorem kindOf_eq_ok_iff
    : catalog.kindOf tree = .ok kind
      ↔ catalog.Knows tree ∧ (kind = .search ↔ catalog.AllowsAll .search tree) := by
  rw [kindOf, foldlM_kindAfter_eq_ok_iff]
  simp only [true_and]
  rfl

/-- A tree that queries of any kind accept is accepted in queries of its own kind. That is the same
kind unless searches may use all of its fields; then it is accepted in searches as it is.
-/
theorem exists_kindOf_of_accepts (accepted : catalog.Accepts kind tree)
    : ∃ detected, catalog.kindOf tree = .ok detected ∧ catalog.Accepts detected tree := by
  have allowed := allowsAll_of_accepts accepted
  by_cases searched : catalog.AllowsAll .search tree
  · obtain ⟨query, found⟩ := accepted
    rw [engineQuery_congr allowed searched] at found
    exact ⟨.search, kindOf_eq_ok_iff.mpr ⟨allowed.knows, by simp [searched]⟩, query, found⟩
  · have relation : kind = .relation := by
      cases kind with
      | search => exact absurd allowed searched
      | relation => rfl
    subst relation
    exact ⟨.relation, kindOf_eq_ok_iff.mpr ⟨allowed.knows, by simp [searched]⟩, accepted⟩

/-- A tree whose kind is a search is accepted in searches if it is accepted at all. -/
theorem kindOf_eq_search_iff (detected : catalog.kindOf tree = .ok kind)
    (accepted : catalog.Accepts kind tree)
    : kind = .search ↔ catalog.Accepts .search tree := by
  constructor
  · rintro rfl
    exact accepted
  · intro searched
    exact (kindOf_eq_ok_iff.mp detected).2.mpr (allowsAll_of_accepts searched)

/-- A query is compiled as a kind if its tree is accepted in queries of the kind and its sort keys
are accepted, which has nothing to do with the kind.
-/
theorem exists_compileAs_eq_ok
    : (∃ compiled, catalog.compileAs profile kind query = .ok compiled)
      ↔ catalog.Accepts kind query.root
        ∧ ∃ sort, (query.sort.getD []).mapM catalog.sortField = .ok sort := by
  simp only [compileAs, bind_eq_ok]
  constructor
  · rintro ⟨compiled, user, accepted, sort, sorted, -⟩
    exact ⟨⟨user, accepted⟩, sort, sorted⟩
  · rintro ⟨⟨user, accepted⟩, sort, sorted⟩
    exact ⟨_, user, accepted, sort, sorted, rfl⟩

theorem kind_eq_of_compileAs {compiled : CompiledQuery}
    (found : catalog.compileAs profile kind query = .ok compiled)
    : compiled.kind = kind := by
  obtain ⟨user, -, found⟩ := bind_eq_ok.mp found
  obtain ⟨sort, -, found⟩ := bind_eq_ok.mp found
  rw [← pure_eq_ok.mp found]

-----------------------------------------------------------------------------------------
-- Refusals
-----------------------------------------------------------------------------------------

/-- The computation never fails because searches may not use an index. -/
abbrev NeverRefusesForSearch {α : Type} (outcome : Except CompilationError α) : Prop :=
  FailsOnlyWith (fun error => error.isRefusalForSearch = false) outcome

theorem neverRefusesForSearch_resolve (index : Option String)
    : NeverRefusesForSearch (catalog.resolve index) := by
  simp only [resolve]
  split
  · exact failsOnlyWith_ok _
  · exact failsOnlyWith_error rfl

theorem neverRefusesForSearch_of_failsByContent {α : Type} {outcome : Except CompilationError α}
    (fails : FailsByContent outcome)
    : NeverRefusesForSearch outcome :=
  fails.mono fun _ => CompilationError.not_isRefusalForSearch_of_isOfContent

theorem neverRefusesForSearch_kindOf (tree : QueryTree)
    : NeverRefusesForSearch (catalog.kindOf tree) :=
  .foldlM fun clause _ _ => (neverRefusesForSearch_resolve clause.index).map _

theorem neverRefusesForSearch_sortField (key : SortKey)
    : NeverRefusesForSearch (catalog.sortField key) :=
  (neverRefusesForSearch_resolve (some key.index)).bind fun _ _ =>
    (neverRefusesForSearch_of_failsByContent
      (Modifier.failsByContent_descending key.modifiers)).bind fun _ _ => failsOnlyWith_ok _

/-- The index of a clause is not refused if queries of the kind may use it. -/
theorem not_refusesIndex {error : CompilationError} (allowed : catalog.Allows kind clause)
    : ¬ catalog.RefusesIndex kind clause error := by
  obtain ⟨field, known, usable⟩ := allowed
  rintro (unknown | ⟨same, alsoKnown, unusable, -⟩)
  · cases known.symm.trans unknown
  · cases known.symm.trans alsoKnown
    cases usable.symm.trans unusable

/-- A tree is only compiled as a search if searches may use all of its fields; as a relation lookup
it is not refused for searches.
-/
theorem neverRefusesForSearch_engineQuery (detected : catalog.kindOf tree = .ok kind)
    : NeverRefusesForSearch (catalog.engineQuery kind tree) := by
  refine (failsOnlyWith_engineQuery tree).mono fun error blames => ?_
  rcases blames with ofContent | ⟨clause, member, refused⟩
  · exact CompilationError.not_isRefusalForSearch_of_isOfContent ofContent
  · cases kind with
    | search =>
        have allowed := (kindOf_eq_ok_iff.mp detected).2.mp rfl
        exact absurd refused (not_refusesIndex (allowed clause member))
    | relation =>
        rcases refused with unknown | ⟨field, -, -, rfl⟩
        · exact neverRefusesForSearch_resolve clause.index error unknown
        · rfl

theorem neverRefusesForSearch_compile
    : NeverRefusesForSearch (catalog.compile profile query) := by
  refine (neverRefusesForSearch_kindOf query.root).bind fun kind detected => ?_
  refine (neverRefusesForSearch_engineQuery detected).bind fun user _ => ?_
  refine .bind ?_ fun sort _ => failsOnlyWith_ok _
  exact .mapM fun key _ => neverRefusesForSearch_sortField key

-----------------------------------------------------------------------------------------
-- Detection
-----------------------------------------------------------------------------------------

theorem exists_compile_eq_ok
    : (∃ compiled, catalog.compile profile query = .ok compiled)
      ↔ ∃ kind compiled, catalog.compileAs profile kind query = .ok compiled := by
  constructor
  · rintro ⟨compiled, found⟩
    obtain ⟨kind, -, found⟩ := bind_eq_ok.mp found
    exact ⟨kind, compiled, found⟩
  · rintro ⟨kind, some⟩
    obtain ⟨accepted, sorted⟩ := exists_compileAs_eq_ok.mp some
    obtain ⟨detectedKind, detected, accepted⟩ := exists_kindOf_of_accepts accepted
    obtain ⟨compiled, found⟩ := exists_compileAs_eq_ok.mpr ⟨accepted, sorted⟩
    exact ⟨compiled, bind_eq_ok.mpr ⟨detectedKind, detected, found⟩⟩

/-- What is compiled shows the kind that was detected. -/
theorem compile_eq_ok {compiled : CompiledQuery}
    (found : catalog.compile profile query = .ok compiled)
    : catalog.kindOf query.root = .ok compiled.kind
      ∧ catalog.compileAs profile compiled.kind query = .ok compiled := by
  obtain ⟨kind, detected, found⟩ := bind_eq_ok.mp found
  obtain rfl := kind_eq_of_compileAs found
  exact ⟨detected, found⟩

/-- A query that was compiled is a search if it can be compiled as one. -/
theorem kind_eq_search_iff {compiled : CompiledQuery}
    (found : catalog.compile profile query = .ok compiled)
    : compiled.kind = .search
      ↔ ∃ search, catalog.compileAs profile .search query = .ok search := by
  obtain ⟨detected, found⟩ := compile_eq_ok found
  obtain ⟨accepted, sorted⟩ := exists_compileAs_eq_ok.mp ⟨compiled, found⟩
  rw [exists_compileAs_eq_ok, kindOf_eq_search_iff detected accepted, and_iff_left sorted]

/-- Queries of all kinds that accept a tree make the same of it. -/
theorem engineQuery_unique {first second : EngineQuery}
    (found : catalog.engineQuery kind tree = .ok first)
    (also : catalog.engineQuery other tree = .ok second)
    : first = second := by
  have same := engineQuery_congr (allowsAll_of_accepts ⟨first, found⟩)
    (allowsAll_of_accepts ⟨second, also⟩)
  rw [found, also] at same
  exact Except.ok.inj same

/-- The query is compiled as its kind if it can be compiled as any kind, and is never refused
because searches may not use one of its fields.
-/
structure DetectsKind (catalog : Catalog) (profile : Profile) (query : CqlQuery) : Prop where
  complete
    : (∃ compiled, catalog.compile profile query = .ok compiled)
      ↔ ∃ kind compiled, catalog.compileAs profile kind query = .ok compiled
  same_result : ∀ compiled,
    catalog.compile profile query = .ok compiled
    → catalog.compileAs profile compiled.kind query = .ok compiled
  search_first : ∀ compiled,
    catalog.compile profile query = .ok compiled
    → (compiled.kind = .search
      ↔ ∃ search, catalog.compileAs profile .search query = .ok search)
  not_for_search : ∀ index,
    catalog.compile profile query ≠ .error (.wrongUsage index .search)

/-- Every query is compiled as the kind that is detected, which is the first one that it can be
compiled as. A tree that both kinds accept is the same query of the engine for both.
-/
theorem compile_detects_kind (catalog : Catalog) (profile : Profile) (query : CqlQuery)
    : catalog.DetectsKind profile query
      ∧ ∀ tree search relation,
        catalog.engineQuery .search tree = .ok search
        → catalog.engineQuery .relation tree = .ok relation
        → search = relation := by
  constructor
  · exact {
      complete := exists_compile_eq_ok
      same_result := fun _ found => (compile_eq_ok found).2
      search_first := fun _ found => kind_eq_search_iff found
      not_for_search := by
        intro index refused
        cases neverRefusesForSearch_compile _ refused
    }
  · intro tree search relation asSearch asRelation
    exact engineQuery_unique asSearch asRelation

end CqlGateway.Catalog
