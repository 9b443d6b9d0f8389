import CqlGateway.Proofs.Compilation.Meaning
import CqlGateway.Proofs.EngineQuery.NormalForm
import CqlGateway.Proofs.Outcome

/-! The engine query of a tree has the truth and the field matches that the tree asks for, and is in
normal form.
-/

namespace CqlGateway

open Outcome

-----------------------------------------------------------------------------------------
-- Modifiers
-----------------------------------------------------------------------------------------

namespace Modifier

theorem checkedName_eq_ok {modifier : Modifier} {name : String}
    (checked : modifier.checkedName = .ok name)
    : name = Text.lowercase modifier.name := by
  unfold checkedName at checked
  split at checked
  · exact (Except.ok.inj checked).symm
  · cases checked

theorem escapingAfter_eq_ok {held result : Escaping} {modifier : Modifier}
    (after : escapingAfter held modifier = .ok result)
    : result = modifier.chosenEscaping?.getD held := by
  obtain ⟨name, checked, same⟩ := map_eq_ok.mp after
  rw [checkedName_eq_ok checked] at same
  rw [← same]
  unfold chosenEscaping?
  split <;> simp [*]

/-- The escaping of a clause is the one that was chosen last. -/
theorem escaping_eq_ok {field result : Escaping} {modifiers : List Modifier}
    (found : escaping field modifiers = .ok result)
    : result = lastEscaping field modifiers :=
  foldlM_eq_ok (fun _ _ _ after => escapingAfter_eq_ok after) found

/-- A distance that is accepted is the one that the modifier chooses, by its comparison. -/
theorem slopOfDistance_eq_ok {modifier : Modifier} {slop : Nat}
    (found : slopOfDistance modifier = .ok slop)
    : (modifier.comparison.bind fun (symbol, value) =>
        (readUnsigned? distanceLimit value.toList).map fun distance =>
          if symbol = .less then distance - 1 else distance)
      = some slop := by
  unfold slopOfDistance at found
  split at found
  · cases found
  · next symbol value compared =>
      split at found
      · cases found
      · next distance readable =>
          simp only [compared, Option.bind_some, readable, Option.map_some]
          cases symbol with
          | equal | atMost =>
              cases found
              rfl
          | less =>
              simp only at found
              split at found
              · cases found
                rfl
              · cases found
          | identical | different | greater | atLeast => cases found

theorem slopAfter_eq_ok {held result : Nat} {modifier : Modifier}
    (after : slopAfter held modifier = .ok result)
    : result = modifier.chosenSlop?.getD held := by
  obtain ⟨name, checked, rest⟩ := bind_eq_ok.mp after
  rw [checkedName_eq_ok checked] at rest
  split at rest
  · next distance =>
      simp only [chosenSlop?, distance, slopOfDistance_eq_ok rest, Option.getD_some]
  · next distance =>
      simp only [chosenSlop?, distance, slopOfDistance_eq_ok rest, Option.getD_some]
  · next notDistance notProxDistance =>
      unfold chosenSlop?
      split
      · next distance => exact absurd distance notDistance
      · next distance => exact absurd distance notProxDistance
      · exact (pure_eq_ok.mp rest).symm

/-- The slop of a proximity query is the one that was chosen last. -/
theorem slop_eq_ok {modifiers : List Modifier} {result : Nat} (found : slop modifiers = .ok result)
    : result = lastSlop modifiers :=
  foldlM_eq_ok (fun _ _ _ after => slopAfter_eq_ok after) found

end Modifier

-----------------------------------------------------------------------------------------
-- Clauses
-----------------------------------------------------------------------------------------

/-- A field of words accepts every value that is not blank. -/
theorem EngineField.fault?_of_isTokenized {field : EngineField} {value : List Char}
    (tokenized : field.isTokenized = true) (visible : Text.isBlank value = false)
    : field.type.fault? value = none := by
  have text : field.type = .text := of_decide_eq_true tokenized
  simp [FieldType.fault?, visible, text]

namespace ClauseTarget

variable {target : ClauseTarget} {value : String} {query : EngineQuery}

theorem check_eq_ok {result : String} (checked : target.check value = .ok result)
    : result = value := by
  unfold check at checked
  split at checked
  · cases checked
  · exact (Except.ok.inj checked).symm

theorem term_eq_ok (found : target.term value = .ok query)
    : query = .leaf (target.termMatch value) := by
  obtain ⟨checked, passed, rfl⟩ := map_eq_ok.mp found
  rw [check_eq_ok passed]
  rfl

theorem someWords_eq_ok {words : List String} (found : target.someWords value = .ok words)
    : words = Term.words value ∧ Term.words value ≠ [] := by
  unfold someWords at found
  split at found
  · cases found
  · next words' nonempty =>
      refine ⟨(Except.ok.inj found).symm, ?_⟩
      intro none
      exact nonempty none

theorem exact_eq_ok (found : target.exact value = .ok query)
    : query = .leaf (target.wholeMatch value) := by
  unfold exact at found
  unfold wholeMatch
  split at found
  · next tokenized =>
      obtain ⟨words, some, rfl⟩ := map_eq_ok.mp found
      rw [if_pos tokenized, (someWords_eq_ok some).1]
      rfl
  · next whole =>
      rw [if_neg whole]
      exact term_eq_ok found

/-- Several words are taken as `exact` takes them. -/
theorem equality_of_several {word next : String} {rest : List String}
    (several : Term.words value = word :: next :: rest)
    : target.equality value = target.exact value := by
  rw [equality, exact, someWords, several]
  rfl

theorem equality_eq_ok (found : target.equality value = .ok query)
    : query = .leaf (target.equalMatch value) := by
  unfold equalMatch
  cases words : Term.words value with
  | nil =>
      rw [equality, words] at found
      cases found
  | cons word others =>
      cases others with
      | nil =>
          rw [equality, words] at found
          exact term_eq_ok found
      | cons next rest =>
          rw [equality_of_several words] at found
          exact exact_eq_ok found

theorem eachWord_eq_ok {queries : List EngineQuery} (found : target.eachWord value = .ok queries)
    : queries = ((Term.words value).map target.termMatch).map .leaf
      ∧ (Term.words value).map target.termMatch ≠ [] := by
  obtain ⟨words, some, mapped⟩ := bind_eq_ok.mp found
  obtain ⟨rfl, nonempty⟩ := someWords_eq_ok some
  refine ⟨?_, by simpa using nonempty⟩
  rw [mapM_eq_ok (fun _ _ => term_eq_ok) mapped, List.map_map]
  rfl

theorem bound_eq_ok {result : String} (found : target.bound value = .ok result)
    : result = Text.trim value :=
  check_eq_ok found

theorem within_eq_ok (found : target.within value = .ok query)
    : ∃ low high,
        Term.words value = [low, high]
        ∧ query
          = .leaf
              (target.rangeMatch (.inclusive (Text.trim low)) (.inclusive (Text.trim high))) := by
  unfold within at found
  split at found
  · next low high two =>
      obtain ⟨lower, fromLow, found⟩ := bind_eq_ok.mp found
      obtain ⟨upper, fromHigh, found⟩ := bind_eq_ok.mp found
      rw [bound_eq_ok fromLow, bound_eq_ok fromHigh] at found
      exact ⟨low, high, two, (pure_eq_ok.mp found).symm⟩
  · cases found

/-- The ways in which a relation joins its field matches. -/
def joined (relation : Relation) (conditions : List FieldMatch) : EngineQuery :=
  match relation with
  | .named "any" => .disjunction (conditions.map .leaf)
  | .comparison .different => .negation (.conjunction (conditions.map .leaf))
  | _ => .conjunction (conditions.map .leaf)

theorem conjunction_leaf (condition : FieldMatch)
    : EngineQuery.conjunction [.leaf condition] = .leaf condition := by
  rfl

/-- An accepted comparison is its field matches joined, by the symbol that compares. -/
theorem compare_eq_ok {symbol : Comparison} (found : target.compare symbol value = .ok query)
    : query = joined (.comparison symbol) (target.fieldMatches (.comparison symbol) value)
      ∧ target.fieldMatches (.comparison symbol) value ≠ [] := by
  cases symbol with
  | equal => exact ⟨equality_eq_ok found, by simp [fieldMatches]⟩
  | identical => exact ⟨exact_eq_ok found, by simp [fieldMatches]⟩
  | different =>
      obtain ⟨positive, equal, rfl⟩ := map_eq_ok.mp found
      rw [equality_eq_ok equal]
      exact ⟨rfl, by simp [fieldMatches]⟩
  | less | atMost | greater | atLeast =>
      simp only [compare] at found
      obtain ⟨bound, checked, rfl⟩ := map_eq_ok.mp found
      rw [bound_eq_ok checked]
      exact ⟨rfl, by simp [fieldMatches]⟩

/-- An accepted named relation is its field matches joined, by the names that there are. -/
theorem relate_eq_ok {relation : String} (found : target.relate relation value = .ok query)
    : query = joined (.named relation) (target.fieldMatches (.named relation) value)
      ∧ target.fieldMatches (.named relation) value ≠ [] := by
  unfold relate at found
  split at found
  · exact ⟨exact_eq_ok found, by simp [fieldMatches]⟩
  · exact ⟨exact_eq_ok found, by simp [fieldMatches]⟩
  · obtain ⟨queries, each, rfl⟩ := map_eq_ok.mp found
    rw [(eachWord_eq_ok each).1]
    exact ⟨rfl, (eachWord_eq_ok each).2⟩
  · obtain ⟨queries, each, rfl⟩ := map_eq_ok.mp found
    rw [(eachWord_eq_ok each).1]
    exact ⟨rfl, (eachWord_eq_ok each).2⟩
  · obtain ⟨low, high, two, rfl⟩ := within_eq_ok found
    simp [fieldMatches, two, joined, conjunction_leaf]
  · cases found

/-- What is accepted of a relation and a term is its field matches joined, of which there is one. -/
theorem query_eq_ok {relation : Relation} (found : target.query relation value = .ok query)
    : query = joined relation (target.fieldMatches relation value)
      ∧ target.fieldMatches relation value ≠ [] := by
  cases relation with
  | comparison symbol => exact compare_eq_ok found
  | named name => exact relate_eq_ok found

/-- Joined field matches are as true as the clause that they stand for. -/
theorem eval_joined (truth : FieldMatch → Bool) (relation : Relation) (value : String)
    : (joined relation (target.fieldMatches relation value)).eval truth
      = target.holds truth relation value := by
  unfold joined holds
  split
  · simp [EngineQuery.eval_disjunction, fieldMatches, Function.comp_def]
  · simp [EngineQuery.eval_negation, EngineQuery.eval_conjunction, fieldMatches]
  · next notAny notDifferent =>
      rw [EngineQuery.eval_conjunction, List.all_map]
      split
      · next same => exact absurd rfl notAny
      · simp [fieldMatches, Function.comp_def]
      · exact absurd rfl notDifferent
      · simp [Function.comp_def]

/-- Joined field matches are all there, in their order. -/
theorem leaves_joined (relation : Relation) (conditions : List FieldMatch)
    : (joined relation conditions).leaves = conditions := by
  have each : (conditions.map EngineQuery.leaf).flatMap EngineQuery.leaves = conditions := by
    simp [List.flatMap_map]
  unfold joined
  split
  · rw [EngineQuery.leaves_disjunction, each]
  · rw [EngineQuery.leaves_negation, EngineQuery.leaves_conjunction, each]
  · rw [EngineQuery.leaves_conjunction, each]

theorem isNormal_joined (relation : Relation) (conditions : List FieldMatch)
    : (joined relation conditions).IsNormal := by
  have each : ∀ operand ∈ conditions.map EngineQuery.leaf, operand.IsNormal := by
    intro operand member
    obtain ⟨condition, _, rfl⟩ := List.mem_map.mp member
    exact .leaf condition
  unfold joined
  split
  · exact .disjunction each
  · exact (EngineQuery.IsNormal.conjunction each).negation
  · exact .conjunction each

end ClauseTarget

-----------------------------------------------------------------------------------------
-- Parts and trees
-----------------------------------------------------------------------------------------

theorem QueryTree.clause?_eq_some {tree : QueryTree} {clause : SearchClause}
    : tree.clause? = some clause ↔ tree = .search clause := by
  cases tree <;> simp [clause?]

namespace Catalog

variable {catalog : Catalog} {kind : QueryKind} {query : EngineQuery}

theorem resolve_eq_ok {index : Option String} {field : EngineField}
    (found : catalog.resolve index = .ok field)
    : catalog.field? (index.getD catalog.defaultIndex) = some field := by
  simp only [resolve] at found
  split at found
  · next field' known => rw [known, Except.ok.inj found]
  · cases found

/-- What an accepted clause is matched against is what it asks for. -/
theorem target_eq_ok {clause : SearchClause} {target : ClauseTarget}
    (found : catalog.target kind clause = .ok target)
    : catalog.target? clause = some target := by
  obtain ⟨field, known, found⟩ := bind_eq_ok.mp found
  obtain ⟨_, _, found⟩ := bind_eq_ok.mp found
  obtain ⟨escaping, chosen, found⟩ := bind_eq_ok.mp found
  rw [target?, indexName, resolve_eq_ok known, Option.map_some,
    ← Modifier.escaping_eq_ok chosen]
  exact congrArg some (pure_eq_ok.mp found)

/-- The engine query of a part: it has the truth that the part asks for and the field matches of the
part, of which there is one at least.
-/
structure Preserves (catalog : Catalog) (unit : QueryUnit) (query : EngineQuery) : Prop where
  eval : ∀ truth, query.eval truth = catalog.unitHolds truth unit
  leaves : query.leaves = catalog.unitMatches unit
  nonempty : catalog.unitMatches unit ≠ []
  normal : query.IsNormal

theorem clauseQuery_eq_ok {clause : SearchClause}
    (found : catalog.clauseQuery kind clause = .ok query)
    : catalog.Preserves (.clause clause) query := by
  obtain ⟨target, known, found⟩ := bind_eq_ok.mp found
  obtain ⟨rfl, nonempty⟩ := ClauseTarget.query_eq_ok found
  have same := target_eq_ok known
  exact {
    eval := by simp only [unitHolds, same, ClauseTarget.eval_joined, implies_true]
    leaves := by simp only [unitMatches, same, ClauseTarget.leaves_joined]
    nonempty := by simpa only [unitMatches, same] using nonempty
    normal := ClauseTarget.isNormal_joined clause.relation _
  }

theorem usableField_eq_ok {clause : SearchClause} {field : EngineField} {done : Unit}
    (usable : catalog.usableField kind clause field = .ok done)
    : field.usage.allows kind = true := by
  unfold usableField at usable
  split at usable
  · assumption
  · cases usable

theorem ensureProximity_eq_ok {holds : Bool} {fault : ProximityFault} {done : Unit}
    (ensured : ensureProximity holds fault = .ok done)
    : holds = true := by
  unfold ensureProximity at ensured
  split at ensured
  · assumption
  · cases ensured

/-- Two clauses near each other: all that is checked of them, and their match in the engine. -/
structure IsNear (catalog : Catalog) (kind : QueryKind) (modifiers : List Modifier)
    (left right : SearchClause) (field rightField : EngineField) (query : EngineQuery) : Prop where
  left_field : catalog.resolve left.index = .ok field
  right_field : catalog.resolve right.index = .ok rightField
  left_usage : field.usage.allows kind = true
  right_usage : rightField.usage.allows kind = true
  same_name : field.name = rightField.name
  tokenized : field.isTokenized = true
  left_relation : left.relation.matchesWords = true
  right_relation : right.relation.matchesWords = true
  words_ne_nil : Term.words left.term ++ Term.words right.term ≠ []
  query_eq : query = .leaf {
    field := field.name
    escaping := field.escaping
    value := .proximity (Term.joinWords (Term.words left.term ++ Term.words right.term))
      (Modifier.lastSlop modifiers)
  }

theorem nearQuery_eq_ok {modifiers : List Modifier} {left right : SearchClause}
    (found : catalog.nearQuery kind modifiers left right = .ok query)
    : ∃ field rightField, catalog.IsNear kind modifiers left right field rightField query := by
  obtain ⟨field, leftField, found⟩ := bind_eq_ok.mp found
  obtain ⟨rightField, known, found⟩ := bind_eq_ok.mp found
  obtain ⟨_, leftUsage, found⟩ := bind_eq_ok.mp found
  obtain ⟨_, rightUsage, found⟩ := bind_eq_ok.mp found
  obtain ⟨_, sameName, found⟩ := bind_eq_ok.mp found
  obtain ⟨_, tokenized, found⟩ := bind_eq_ok.mp found
  obtain ⟨_, leftRelation, found⟩ := bind_eq_ok.mp found
  obtain ⟨_, rightRelation, found⟩ := bind_eq_ok.mp found
  obtain ⟨slop, chosen, found⟩ := bind_eq_ok.mp found
  obtain ⟨_, someWords, found⟩ := bind_eq_ok.mp found
  refine ⟨field, rightField, {
    left_field := leftField
    right_field := known
    left_usage := usableField_eq_ok leftUsage
    right_usage := usableField_eq_ok rightUsage
    same_name := of_decide_eq_true (ensureProximity_eq_ok sameName)
    tokenized := ensureProximity_eq_ok tokenized
    left_relation := ensureProximity_eq_ok leftRelation
    right_relation := ensureProximity_eq_ok rightRelation
    words_ne_nil := by simpa using ensureProximity_eq_ok someWords
    query_eq := ?_
  }⟩
  rw [← Modifier.slop_eq_ok chosen]
  exact (pure_eq_ok.mp found).symm

/-- What is near each other is matched as the two clauses ask for. -/
theorem IsNear.nearMatch? {modifiers : List Modifier} {left right : SearchClause}
    {field rightField : EngineField}
    (near : catalog.IsNear kind modifiers left right field rightField query)
    : ∃ condition,
        catalog.nearMatch? modifiers (.search left) (.search right) = some condition
        ∧ query = .leaf condition := by
  refine ⟨_, ?_, near.query_eq⟩
  simp [Catalog.nearMatch?, QueryTree.clause?, indexName, resolve_eq_ok near.left_field]

theorem proximityQuery_eq_ok {modifiers : List Modifier} {left right : QueryTree}
    (found : catalog.proximityQuery kind modifiers left right = .ok query)
    : catalog.Preserves (.near modifiers left right) query := by
  cases left with
  | boolean => cases found
  | search left =>
      cases right with
      | boolean => cases found
      | search right =>
          obtain ⟨_, _, near⟩ := nearQuery_eq_ok found
          obtain ⟨condition, same, rfl⟩ := near.nearMatch?
          exact {
            eval := by simp [unitHolds, same]
            leaves := by simp [unitMatches, same]
            nonempty := by simp [unitMatches, same]
            normal := .leaf condition
          }

/-- The queries of two operands, joined as an operator joins them. -/
def joinedBy (operator : BooleanOperator) (left right : EngineQuery) : EngineQuery :=
  match operator with
  | .or => .disjunction [left, right]
  | .not => .conjunction [left, .negation right]
  | _ => .conjunction [left, right]

theorem engineQuery_joinedBy {operator : BooleanOperator} (join : operator ≠ .prox)
    (modifiers : List Modifier) (left right : QueryTree)
    : catalog.engineQuery kind (.boolean operator modifiers left right)
      = do
        let leftQuery ← catalog.engineQuery kind left
        let rightQuery ← catalog.engineQuery kind right
        return joinedBy operator leftQuery rightQuery := by
  cases operator with
  | prox => exact absurd rfl join
  | and | or | not => rfl

/-- An accepted tree is joined from its accepted operands. -/
theorem boolean_eq_ok {operator : BooleanOperator} {modifiers : List Modifier}
    {left right : QueryTree} (join : operator ≠ .prox)
    (found : catalog.engineQuery kind (.boolean operator modifiers left right) = .ok query)
    : ∃ leftQuery rightQuery,
        catalog.engineQuery kind left = .ok leftQuery
        ∧ catalog.engineQuery kind right = .ok rightQuery
        ∧ query = joinedBy operator leftQuery rightQuery := by
  rw [engineQuery_joinedBy join] at found
  obtain ⟨leftQuery, fromLeft, found⟩ := bind_eq_ok.mp found
  obtain ⟨rightQuery, fromRight, found⟩ := bind_eq_ok.mp found
  exact ⟨leftQuery, rightQuery, fromLeft, fromRight, (pure_eq_ok.mp found).symm⟩

/-- Joined operands are as true as the tree if each is as true as its own tree. -/
theorem eval_joinedBy {operator : BooleanOperator} {left right : QueryTree}
    {leftQuery rightQuery : EngineQuery} {truth : FieldMatch → Bool} {unitTruth : QueryUnit → Bool}
    (join : operator ≠ .prox) (modifiers : List Modifier)
    (sameLeft : leftQuery.eval truth = left.holds unitTruth)
    (sameRight : rightQuery.eval truth = right.holds unitTruth)
    : (joinedBy operator leftQuery rightQuery).eval truth
      = (QueryTree.boolean operator modifiers left right).holds unitTruth := by
  cases operator with
  | prox => exact absurd rfl join
  | and => simp [joinedBy, EngineQuery.eval_conjunction, QueryTree.holds, sameLeft, sameRight]
  | or => simp [joinedBy, EngineQuery.eval_disjunction, QueryTree.holds, sameLeft, sameRight]
  | not =>
      simp [joinedBy, EngineQuery.eval_conjunction, EngineQuery.eval_negation, QueryTree.holds,
        sameLeft, sameRight]

theorem leaves_joinedBy (operator : BooleanOperator) (left right : EngineQuery)
    : (joinedBy operator left right).leaves = left.leaves ++ right.leaves := by
  unfold joinedBy
  split
  · simp [EngineQuery.leaves_disjunction]
  · simp [EngineQuery.leaves_conjunction, EngineQuery.leaves_negation]
  · simp [EngineQuery.leaves_conjunction]

theorem isNormal_joinedBy (operator : BooleanOperator) {left right : EngineQuery}
    (hl : left.IsNormal) (hr : right.IsNormal)
    : (joinedBy operator left right).IsNormal := by
  unfold joinedBy
  split
  · exact .disjunction (by simpa using ⟨hl, hr⟩)
  · exact .conjunction (by simpa using ⟨hl, hr.negation⟩)
  · exact .conjunction (by simpa using ⟨hl, hr⟩)

theorem units_boolean {operator : BooleanOperator} (join : operator ≠ .prox)
    (modifiers : List Modifier) (left right : QueryTree)
    : (QueryTree.boolean operator modifiers left right).units = left.units ++ right.units := by
  cases operator with
  | prox => exact absurd rfl join
  | and | or | not => rfl

/-- The engine query of a tree: it has the truth that the tree asks for and the field matches of all
parts in their order, and is in normal form.
-/
structure PreservesTree (catalog : Catalog) (tree : QueryTree) (query : EngineQuery) : Prop where
  eval : ∀ truth, query.eval truth = tree.holds (catalog.unitHolds truth)
  leaves : query.leaves = tree.units.flatMap catalog.unitMatches
  nonempty : ∀ unit ∈ tree.units, catalog.unitMatches unit ≠ []
  normal : query.IsNormal

/-- A tree that is a single part is preserved as the part is. -/
theorem Preserves.tree {unit : QueryUnit} {tree : QueryTree}
    (preserved : catalog.Preserves unit query) (single : tree.units = [unit])
    (holds : ∀ truth, tree.holds truth = truth unit)
    : catalog.PreservesTree tree query where
  eval := by simpa only [holds] using preserved.eval
  leaves := by simpa [single] using preserved.leaves
  nonempty := by simpa [single] using preserved.nonempty
  normal := preserved.normal

/-- Preserved operands are preserved when they are joined. -/
theorem PreservesTree.boolean {operator : BooleanOperator} {left right : QueryTree}
    {leftQuery rightQuery : EngineQuery} (join : operator ≠ .prox) (modifiers : List Modifier)
    (hl : catalog.PreservesTree left leftQuery) (hr : catalog.PreservesTree right rightQuery)
    : catalog.PreservesTree (.boolean operator modifiers left right)
        (joinedBy operator leftQuery rightQuery) where
  eval truth := eval_joinedBy join modifiers (hl.eval truth) (hr.eval truth)
  leaves := by
    rw [leaves_joinedBy, units_boolean join, List.flatMap_append, hl.leaves, hr.leaves]
  nonempty := by
    intro unit member
    rw [units_boolean join] at member
    exact (List.mem_append.mp member).elim (hl.nonempty unit) (hr.nonempty unit)
  normal := isNormal_joinedBy operator hl.normal hr.normal

/-- Every accepted tree is preserved, by induction on the tree. -/
theorem engineQuery_eq_ok {tree : QueryTree} (found : catalog.engineQuery kind tree = .ok query)
    : catalog.PreservesTree tree query := by
  induction tree generalizing query with
  | search clause =>
      simp only [engineQuery] at found
      exact (clauseQuery_eq_ok found).tree rfl fun _ => rfl
  | boolean operator modifiers left right leftPreserved rightPreserved =>
      by_cases near : operator = .prox
      · subst operator
        simp only [engineQuery] at found
        exact (proximityQuery_eq_ok found).tree rfl fun _ => rfl
      · obtain ⟨leftQuery, rightQuery, fromLeft, fromRight, rfl⟩ := boolean_eq_ok near found
        exact .boolean near modifiers (leftPreserved fromLeft) (rightPreserved fromRight)

/-- The engine query of a tree has the truth that the tree asks for, whatever the truth of the field
matches. From left to right it has the field matches of the tree's parts, each part with at least
one, and no others.
-/
theorem engineQuery_preserves_meaning {tree : QueryTree}
    (found : catalog.engineQuery kind tree = .ok query)
    : (∀ truth, query.eval truth = tree.holds (catalog.unitHolds truth))
      ∧ query.leaves = tree.units.flatMap catalog.unitMatches
      ∧ ∀ unit ∈ tree.units, catalog.unitMatches unit ≠ [] := by
  have preserved := engineQuery_eq_ok found
  exact ⟨preserved.eval, preserved.leaves, preserved.nonempty⟩

/-- A catalog of one text field. -/
def titles : Catalog :=
  {
    defaultIndex := "title"
    collectionIndex := "title"
    fields := [("title", .text "term.title")]
    has_default := by decide
    has_collection := by decide
  }

/-- A clause of the default index. -/
def titleClause (relation : Relation) (term : String) : QueryTree :=
  .search { SearchClause.bare term 0 with relation := relation }

/-- A negation of a difference, in which two negations cancel out, behind two alternatives. -/
def eitherNotDifferent : QueryTree :=
  .boolean .not [] (titleClause (.named "any") "x y") (titleClause (.comparison .different) "z")

theorem engineQuery_preserves_meaning_eitherNotDifferent
    : ∃ query,
        titles.engineQuery .search eitherNotDifferent = .ok query
        ∧ (∀ truth,
          query.eval truth = eitherNotDifferent.holds (titles.unitHolds truth))
        ∧ query.leaves = eitherNotDifferent.units.flatMap titles.unitMatches
        ∧ ∀ unit ∈ eitherNotDifferent.units, titles.unitMatches unit ≠ [] := by
  have found : titles.engineQuery .search eitherNotDifferent
      = .ok (.and [
        .or [.term "term.title" .masked "x", .term "term.title" .masked "y"],
        .term "term.title" .masked "z"
      ]) := by
    rfl
  exact ⟨_, found, engineQuery_preserves_meaning found⟩

end Catalog

end CqlGateway
