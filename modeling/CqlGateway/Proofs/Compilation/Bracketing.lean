import CqlGateway.Proofs.Compilation.Preservation

/-! A row of trees that `and` joins, or `or`, has one engine query however it is bracketed: the
conjunction or the disjunction of the whole row. If a tree of the row is refused, so is the query,
as the first such tree is.
-/

namespace CqlGateway

open Outcome

-----------------------------------------------------------------------------------------
-- Joined rows of engine queries
-----------------------------------------------------------------------------------------

namespace EngineQuery

variable {query : EngineQuery} {operands front back : List EngineQuery}

/-- All queries of a row are in normal form. -/
abbrev AreNormal (operands : List EngineQuery) : Prop :=
  ∀ operand ∈ operands, operand.IsNormal

/-- Only what the operands bring in counts for their conjunction. -/
theorem conjunction_congr (same : front.flatMap conjuncts = back.flatMap conjuncts)
    : conjunction front = conjunction back := by
  unfold conjunction
  rw [same]

/-- Only what the operands bring in counts for their disjunction. -/
theorem disjunction_congr (same : front.flatMap disjuncts = back.flatMap disjuncts)
    : disjunction front = disjunction back := by
  unfold disjunction
  rw [same]

/-- A conjunction brings in what its operands do. Without operands it would bring in what matches
everything.
-/
theorem conjuncts_conjunction (some : operands ≠ []) (normal : AreNormal operands)
    : (conjunction operands).conjuncts = operands.flatMap conjuncts := by
  have brought : operands.flatMap conjuncts ≠ [] := by
    obtain ⟨first, rest, rfl⟩ := List.exists_cons_of_ne_nil some
    simp [(normal first (by simp)).conjuncts_ne_nil]
  have spliced : ∀ operand ∈ operands.flatMap conjuncts, operand.isAnd = false := by
    intro operand member
    obtain ⟨query, inOperands, inQuery⟩ := List.mem_flatMap.mp member
    exact ((normal query inOperands).of_mem_conjuncts inQuery).2
  refine conjunction_cases
    (motive := fun brought query =>
      brought ≠ [] → (∀ operand ∈ brought, operand.isAnd = false) → query.conjuncts = brought)
    ?_ ?_ ?_ operands brought spliced
  · exact fun none => absurd rfl none
  · exact fun operand _ single => conjuncts_eq_singleton (single operand (by simp))
  · exact fun several _ _ _ => rfl

/-- A disjunction brings in what its operands do. Without operands it would bring in what matches
nothing.
-/
theorem disjuncts_disjunction (some : operands ≠ []) (normal : AreNormal operands)
    : (disjunction operands).disjuncts = operands.flatMap disjuncts := by
  have brought : operands.flatMap disjuncts ≠ [] := by
    obtain ⟨first, rest, rfl⟩ := List.exists_cons_of_ne_nil some
    simp [(normal first (by simp)).disjuncts_ne_nil]
  have spliced : ∀ operand ∈ operands.flatMap disjuncts, operand.isOr = false := by
    intro operand member
    obtain ⟨query, inOperands, inQuery⟩ := List.mem_flatMap.mp member
    exact ((normal query inOperands).of_mem_disjuncts inQuery).2
  refine disjunction_cases
    (motive := fun brought query =>
      brought ≠ [] → (∀ operand ∈ brought, operand.isOr = false) → query.disjuncts = brought)
    ?_ ?_ ?_ operands brought spliced
  · exact fun none => absurd rfl none
  · exact fun operand _ single => disjuncts_eq_singleton (single operand (by simp))
  · exact fun several _ _ _ => rfl

/-- A query is taken apart and put together again, which needs several operands if it has any. -/
theorem conjunction_singleton (normal : query.IsNormal) : conjunction [query] = query := by
  unfold conjunction
  rw [List.flatMap_singleton]
  cases normal with
  | @and operands several =>
      match operands, several with
      | first :: second :: rest, _ => rfl
  | all | leaf | not | or => rfl

theorem disjunction_singleton (normal : query.IsNormal) : disjunction [query] = query := by
  unfold disjunction
  rw [List.flatMap_singleton]
  cases normal with
  | @or operands several =>
      match operands, several with
      | first :: second :: rest, _ => rfl
  | all | leaf | not | and => rfl

/-- A way to join rows of queries that leaves a row of one as it is and does not see brackets. -/
structure JoinsRows (join : List EngineQuery → EngineQuery) : Prop where
  single : ∀ {query}, query.IsNormal → join [query] = query
  append : ∀ {front back}, front ≠ [] → back ≠ [] → AreNormal front → AreNormal back →
    join [join front, join back] = join (front ++ back)

theorem joinsRows_conjunction : JoinsRows conjunction where
  single := conjunction_singleton
  append someFront someBack normalFront normalBack := by
    apply conjunction_congr
    simp only [List.flatMap_cons, List.flatMap_nil, List.append_nil, List.flatMap_append,
      conjuncts_conjunction someFront normalFront, conjuncts_conjunction someBack normalBack]

theorem joinsRows_disjunction : JoinsRows disjunction where
  single := disjunction_singleton
  append someFront someBack normalFront normalBack := by
    apply disjunction_congr
    simp only [List.flatMap_cons, List.flatMap_nil, List.append_nil, List.flatMap_append,
      disjuncts_disjunction someFront normalFront, disjuncts_disjunction someBack normalBack]

/-- The query of a whole row, joined by an operator that joins rows. -/
def rowJoinedBy (operator : BooleanOperator) : List EngineQuery → EngineQuery :=
  match operator with
  | .or => disjunction
  | _ => conjunction

theorem joinsRows_rowJoinedBy (operator : BooleanOperator) : JoinsRows (rowJoinedBy operator) := by
  unfold rowJoinedBy
  split
  · exact joinsRows_disjunction
  · exact joinsRows_conjunction

end EngineQuery

-----------------------------------------------------------------------------------------
-- Bracketed rows of trees
-----------------------------------------------------------------------------------------

/-- The tree joins a row of trees in their order by one operator, bracketed in some way. -/
inductive QueryTree.Brackets (operator : BooleanOperator) : List QueryTree → QueryTree → Prop
  | single (tree : QueryTree) : Brackets operator [tree] tree
  | join {front back : List QueryTree} {left right : QueryTree} (modifiers : List Modifier)
    (left_brackets : Brackets operator front left) (right_brackets : Brackets operator back right)
    : Brackets operator (front ++ back) (.boolean operator modifiers left right)

theorem QueryTree.Brackets.ne_nil {operator : BooleanOperator} {row : List QueryTree}
    {tree : QueryTree} (brackets : Brackets operator row tree)
    : row ≠ [] := by
  induction brackets with
  | single => exact List.cons_ne_nil _ _
  | join _ _ _ ih => simp [ih]

/-- The clauses of a row do not depend on the brackets. -/
theorem QueryTree.Brackets.clauses {operator : BooleanOperator} {row : List QueryTree}
    {tree : QueryTree} (brackets : Brackets operator row tree)
    : tree.clauses = row.flatMap QueryTree.clauses := by
  induction brackets with
  | single => simp
  | join _ _ _ left right => rw [QueryTree.clauses, left, right, List.flatMap_append]

namespace Catalog

variable {catalog : Catalog} {kind : QueryKind} {operator : BooleanOperator}
variable {row : List QueryTree} {tree left right : QueryTree}

/-- The engine queries of a row are in normal form, and there are as many as trees. -/
theorem areNormal_of_mapM {queries : List EngineQuery}
    (found : row.mapM (catalog.engineQuery kind) = .ok queries)
    : EngineQuery.AreNormal queries ∧ queries.length = row.length := by
  induction row generalizing queries with
  | nil =>
      rw [List.mapM_nil] at found
      obtain rfl := pure_eq_ok.mp found
      exact ⟨List.forall_mem_nil _, rfl⟩
  | cons tree rest ih =>
      rw [List.mapM_cons] at found
      obtain ⟨query, accepted, found⟩ := bind_eq_ok.mp found
      obtain ⟨others, acceptedToo, found⟩ := bind_eq_ok.mp found
      obtain rfl := pure_eq_ok.mp found
      obtain ⟨normal, asMany⟩ := ih acceptedToo
      have first := (engineQuery_eq_ok accepted).normal
      exact ⟨List.forall_mem_cons.mpr ⟨first, normal⟩, by simp [asMany]⟩

theorem engineQuery_boolean (joins : operator = .and ∨ operator = .or) (modifiers : List Modifier)
    (left right : QueryTree)
    : catalog.engineQuery kind (.boolean operator modifiers left right)
      = do
        let left ← catalog.engineQuery kind left
        let right ← catalog.engineQuery kind right
        return EngineQuery.rowJoinedBy operator [left, right] := by
  rcases joins with rfl | rfl <;> rfl

/-- A bracketed row is accepted if all its trees are, and joined as the row, by induction on the
brackets. The first tree that is refused is so in the row as well.
-/
theorem engineQuery_of_brackets (joins : operator = .and ∨ operator = .or)
    (brackets : tree.Brackets operator row)
    : catalog.engineQuery kind tree
      = (row.mapM (catalog.engineQuery kind)).map (EngineQuery.rowJoinedBy operator) := by
  have joinsRows := EngineQuery.joinsRows_rowJoinedBy operator
  induction brackets with
  | single tree =>
      rw [List.mapM_cons, List.mapM_nil]
      cases accepted : catalog.engineQuery kind tree with
      | error error => rfl
      | ok query =>
          have same := joinsRows.single (engineQuery_eq_ok accepted).normal
          simpa [pure, Except.pure, bind, Except.bind, Except.map] using same.symm
  | @join front back left right modifiers hl hr fromLeft fromRight =>
      rw [engineQuery_boolean joins, fromLeft, fromRight, List.mapM_append]
      cases acceptedFront : front.mapM (catalog.engineQuery kind) with
      | error error => rfl
      | ok frontQueries =>
          cases acceptedBack : back.mapM (catalog.engineQuery kind) with
          | error error => rfl
          | ok backQueries =>
              obtain ⟨normalFront, asManyFront⟩ := areNormal_of_mapM acceptedFront
              obtain ⟨normalBack, asManyBack⟩ := areNormal_of_mapM acceptedBack
              have someFront : frontQueries ≠ [] := by
                simpa [← List.length_pos_iff, asManyFront] using hl.ne_nil
              have someBack : backQueries ≠ [] := by
                simpa [← List.length_pos_iff, asManyBack] using hr.ne_nil
              exact congrArg Except.ok
                (joinsRows.append someFront someBack normalFront normalBack)

/-- Two ways to bracket a row with `and`, or with `or`, have the same engine query or are refused
with the same error, and they are compiled alike under every profile.
-/
theorem engineQuery_bracketing (catalog : Catalog) (joins : operator = .and ∨ operator = .or)
    (leftBrackets : left.Brackets operator row) (rightBrackets : right.Brackets operator row)
    : (∀ kind, catalog.engineQuery kind left = catalog.engineQuery kind right)
      ∧ ∀ profile sort,
        catalog.compile profile ⟨left, sort⟩ = catalog.compile profile ⟨right, sort⟩ := by
  have same (kind : QueryKind)
      : catalog.engineQuery kind left = catalog.engineQuery kind right := by
    rw [engineQuery_of_brackets joins leftBrackets, engineQuery_of_brackets joins rightBrackets]
  refine ⟨same, fun profile sort => ?_⟩
  simp only [compile, compileAs, kindOf, leftBrackets.clauses, rightBrackets.clauses, same]

/-- Clauses of which the first and the last are disjunctions themselves. -/
def alternatives : List QueryTree :=
  [
    titleClause (.named "any") "a b",
    titleClause (.comparison .different) "c",
    titleClause (.named "all") "d",
    titleClause (.named "any") "e f"
  ]

/-- The clauses two by two, and one by one from the right. -/
theorem engineQuery_bracketing_alternatives
    : ∃ left right,
        left.Brackets .or alternatives
        ∧ right.Brackets .or alternatives
        ∧ left ≠ right
        ∧ (∀ kind, titles.engineQuery kind left = titles.engineQuery kind right)
        ∧ ∀ profile sort,
          titles.compile profile ⟨left, sort⟩ = titles.compile profile ⟨right, sort⟩ := by
  have pairs : QueryTree.Brackets .or alternatives _ :=
    .join [] (.join [] (.single _) (.single _)) (.join [] (.single _) (.single _))
  have fromRight : QueryTree.Brackets .or alternatives _ :=
    .join [] (.single _) (.join [] (.single _) (.join [] (.single _) (.single _)))
  exact ⟨_, _, pairs, fromRight, by decide,
    engineQuery_bracketing titles (.inr rfl) pairs fromRight⟩

end Catalog

end CqlGateway
