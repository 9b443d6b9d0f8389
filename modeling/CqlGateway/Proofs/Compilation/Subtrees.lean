import CqlGateway.Proofs.Compilation.Preservation
import CqlGateway.Proofs.Term.Words

/-! Which parts of an accepted tree are accepted on their own. Every part is that does not stand
below `prox`. The two clauses below `prox` are looked at together: it is enough that one of them has
a word.
-/

namespace CqlGateway

open Outcome

-----------------------------------------------------------------------------------------
-- Modifiers
-----------------------------------------------------------------------------------------

namespace Modifier

/-- True of a modifier whose name is well formed. -/
def IsNamed (modifier : Modifier) : Prop :=
  isWellFormedName modifier.name.toList = true

theorem exists_checkedName_eq_ok {modifier : Modifier}
    : (∃ name, modifier.checkedName = .ok name) ↔ modifier.IsNamed := by
  unfold checkedName IsNamed
  split <;> simp [*]

/-- The escaping of a clause is found if the names of all modifiers are well formed. -/
theorem exists_escaping_eq_ok (field : Escaping) {modifiers : List Modifier}
    : (∃ chosen, escaping field modifiers = .ok chosen)
      ↔ ∀ modifier ∈ modifiers, modifier.IsNamed := by
  unfold escaping
  refine exists_foldlM_eq_ok fun held modifier => ?_
  rw [escapingAfter, exists_map_eq_ok, exists_checkedName_eq_ok]

end Modifier

-----------------------------------------------------------------------------------------
-- Clauses
-----------------------------------------------------------------------------------------

namespace ClauseTarget

variable {target : ClauseTarget} {value : String}

/-- A field of words accepts every word. -/
theorem exists_term_eq_ok {word : String} (tokenized : target.field.isTokenized = true)
    (member : word ∈ Term.words value)
    : ∃ query, target.term word = .ok query := by
  have accepted : target.field.type.fault? word.toList = none :=
    target.field.fault?_of_isTokenized tokenized (Term.not_isBlank_of_mem_words member)
  refine exists_map_eq_ok.mpr ⟨word, ?_⟩
  rw [check, accepted]

theorem exists_exact_eq_ok (tokenized : target.field.isTokenized = true)
    : (∃ query, target.exact value = .ok query) ↔ Term.words value ≠ [] := by
  rw [exact, if_pos tokenized, exists_map_eq_ok]
  unfold someWords
  split <;> simp_all [invalid]

theorem exists_equality_eq_ok (tokenized : target.field.isTokenized = true)
    : (∃ query, target.equality value = .ok query) ↔ Term.words value ≠ [] := by
  unfold equality
  split
  · next none => simp [none, invalid]
  · next word single =>
      have member : word ∈ Term.words value := by simp [single]
      simp [single, exists_term_eq_ok tokenized member]
  · next none several =>
      rw [if_pos tokenized]
      simpa using none

/-- On a field of words, a relation that matches them accepts every term that has one. -/
theorem exists_query_eq_ok {relation : Relation} (tokenized : target.field.isTokenized = true)
    (matching : relation.matchesWords = true)
    : (∃ query, target.query relation value = .ok query) ↔ Term.words value ≠ [] := by
  cases relation with
  | comparison symbol =>
      cases symbol with
      | equal => exact exists_equality_eq_ok tokenized
      | identical => exact exists_exact_eq_ok tokenized
      | different | less | atMost | greater | atLeast => cases matching
  | named name =>
      have known : name = "adj" ∨ name = "exact" := by
        simpa [Relation.matchesWords] using matching
      rcases known with rfl | rfl
      · exact exists_exact_eq_ok tokenized
      · exact exists_exact_eq_ok tokenized

end ClauseTarget

namespace Catalog

variable {catalog : Catalog} {kind : QueryKind}

/-- The tree has an engine query in queries of the kind. -/
def Accepts (catalog : Catalog) (kind : QueryKind) (tree : QueryTree) : Prop :=
  ∃ query, catalog.engineQuery kind tree = .ok query

/-- What `prox` checks of an operand by itself: it matches words in the field, which queries of the
kind may use.
-/
structure MatchesWords (catalog : Catalog) (kind : QueryKind) (clause : SearchClause)
    (field : EngineField) : Prop where
  field_eq : catalog.resolve clause.index = .ok field
  usage : field.usage.allows kind = true
  relation : clause.relation.matchesWords = true

namespace MatchesWords

variable {clause : SearchClause} {field : EngineField}

/-- Such a clause is matched against its field, with the escaping that its modifiers choose. -/
theorem target_eq (operand : catalog.MatchesWords kind clause field)
    : catalog.target kind clause
      = (Modifier.escaping field.escaping clause.modifiers).map fun escaping => {
        index := catalog.indexName clause
        field := field
        escaping := escaping
      } := by
  have usable : catalog.usableField kind clause field = .ok () := by
    rw [usableField, if_pos operand.usage]
  simp only [target, operand.field_eq, usable, bind, Except.bind]
  cases Modifier.escaping field.escaping clause.modifiers <;> rfl

/-- On a field of words, such a clause is accepted if its term has a word and the names of its
modifiers are well formed.
-/
theorem accepts_iff (operand : catalog.MatchesWords kind clause field)
    (tokenized : field.isTokenized = true)
    : catalog.Accepts kind (.search clause)
      ↔ Term.words clause.term ≠ [] ∧ ∀ modifier ∈ clause.modifiers, modifier.IsNamed := by
  rw [Accepts, engineQuery, clauseQuery, operand.target_eq,
    ← Modifier.exists_escaping_eq_ok field.escaping]
  cases Modifier.escaping field.escaping clause.modifiers with
  | error error => simp [Except.map, bind, Except.bind]
  | ok escaping =>
      simp only [Except.map, bind, Except.bind, Except.ok.injEq, exists_eq', and_true]
      exact ClauseTarget.exists_query_eq_ok tokenized operand.relation

end MatchesWords

/-- An operand of `prox` in the field. On its own it is checked for more: on a field of words, its
term must have one and the names of its modifiers must be well formed.
-/
structure IsOperandOfNear (catalog : Catalog) (kind : QueryKind) (clause : SearchClause)
    (field : EngineField) : Prop extends catalog.MatchesWords kind clause field where
  accepts_iff : field.isTokenized = true
    → (catalog.Accepts kind (.search clause)
      ↔ Term.words clause.term ≠ [] ∧ ∀ modifier ∈ clause.modifiers, modifier.IsNamed)

/-- What `prox` joins: two clauses of one field, that of the left index being a field of words, with
at least one word between them.
-/
def JoinsWords (catalog : Catalog) (kind : QueryKind) (left right : QueryTree) : Prop :=
  ∃ first second field rightField,
    left = .search first
    ∧ right = .search second
    ∧ catalog.IsOperandOfNear kind first field
    ∧ catalog.IsOperandOfNear kind second rightField
    ∧ field.name = rightField.name
    ∧ field.isTokenized = true
    ∧ Term.words first.term ++ Term.words second.term ≠ []

theorem joinsWords_of_accepts {modifiers : List Modifier} {left right : QueryTree}
    (accepted : catalog.Accepts kind (.boolean .prox modifiers left right))
    : catalog.JoinsWords kind left right := by
  obtain ⟨query, found⟩ := accepted
  rw [engineQuery, proximityQuery] at found
  split at found
  · next first second isFirst isSecond =>
      obtain ⟨field, rightField, near⟩ := nearQuery_eq_ok found
      have leftMatches : catalog.MatchesWords kind first field :=
        ⟨near.left_field, near.left_usage, near.left_relation⟩
      have rightMatches : catalog.MatchesWords kind second rightField :=
        ⟨near.right_field, near.right_usage, near.right_relation⟩
      exact ⟨first, second, field, rightField, QueryTree.clause?_eq_some.mp isFirst,
        QueryTree.clause?_eq_some.mp isSecond, ⟨leftMatches, leftMatches.accepts_iff⟩,
        ⟨rightMatches, rightMatches.accepts_iff⟩, near.same_name, near.tokenized,
        near.words_ne_nil⟩
  · cases found

end Catalog

-----------------------------------------------------------------------------------------
-- Trees
-----------------------------------------------------------------------------------------

variable {catalog : Catalog} {kind : QueryKind} {part tree : QueryTree}

/-- One tree is a part of another one, or all of it. -/
inductive QueryTree.IsSubtree (part : QueryTree) : QueryTree → Prop where
  | whole : IsSubtree part part
  | left (operator : BooleanOperator) (modifiers : List Modifier) {left : QueryTree}
      (right : QueryTree) (inside : IsSubtree part left)
      : IsSubtree part (.boolean operator modifiers left right)
  | right (operator : BooleanOperator) (modifiers : List Modifier) (left : QueryTree)
      {right : QueryTree} (inside : IsSubtree part right)
      : IsSubtree part (.boolean operator modifiers left right)

/-- One tree is a part of another one, or all of it, and is not below `prox` in it. -/
inductive QueryTree.StandsIn (part : QueryTree) : QueryTree → Prop where
  | whole : StandsIn part part
  | left {operator : BooleanOperator} (join : operator ≠ .prox) (modifiers : List Modifier)
      {left : QueryTree} (right : QueryTree) (inside : StandsIn part left)
      : StandsIn part (.boolean operator modifiers left right)
  | right {operator : BooleanOperator} (join : operator ≠ .prox) (modifiers : List Modifier)
      (left : QueryTree) {right : QueryTree} (inside : StandsIn part right)
      : StandsIn part (.boolean operator modifiers left right)

/-- One tree is an operand of `prox` in another one. -/
def QueryTree.IsNearIn (part tree : QueryTree) : Prop :=
  ∃ modifiers left right,
    (QueryTree.boolean .prox modifiers left right).StandsIn tree ∧ (part = left ∨ part = right)

/-- What stands in an accepted tree is accepted, by induction on the way down to it. -/
theorem QueryTree.StandsIn.accepts (inside : part.StandsIn tree)
    (accepted : catalog.Accepts kind tree)
    : catalog.Accepts kind part := by
  induction inside with
  | whole => exact accepted
  | left join modifiers right inside ih =>
      obtain ⟨query, found⟩ := accepted
      obtain ⟨leftQuery, _, fromLeft, -⟩ := Catalog.boolean_eq_ok join found
      exact ih ⟨leftQuery, fromLeft⟩
  | right join modifiers left inside ih =>
      obtain ⟨query, found⟩ := accepted
      obtain ⟨_, rightQuery, -, fromRight, -⟩ := Catalog.boolean_eq_ok join found
      exact ih ⟨rightQuery, fromRight⟩

/-- An operand of an accepted `prox` has no other parts than itself. -/
theorem QueryTree.IsSubtree.eq_of_joinsWords {left right : QueryTree}
    (joins : catalog.JoinsWords kind left right)
    : (part.IsSubtree left → part = left) ∧ (part.IsSubtree right → part = right) := by
  obtain ⟨first, second, field, rightField, rfl, rfl, -⟩ := joins
  refine ⟨?_, ?_⟩
  all_goals
    rintro ⟨⟩
    rfl

/-- Every part of an accepted tree stands in it or is an operand of `prox`, by induction on the way
down to it.
-/
theorem QueryTree.IsSubtree.standsIn_or_isNearIn (inside : part.IsSubtree tree)
    (accepted : catalog.Accepts kind tree)
    : part.StandsIn tree ∨ part.IsNearIn tree := by
  induction inside with
  | whole => exact .inl .whole
  | left operator modifiers right inside ih =>
      by_cases join : operator = .prox
      · subst operator
        have single := (eq_of_joinsWords (Catalog.joinsWords_of_accepts accepted)).1 inside
        exact .inr ⟨modifiers, _, right, .whole, .inl single⟩
      · have operand := (StandsIn.left join modifiers right .whole).accepts accepted
        rcases ih operand with stands | ⟨others, left, near, stands, same⟩
        · exact .inl (.left join modifiers right stands)
        · exact .inr ⟨others, left, near, .left join modifiers right stands, same⟩
  | right operator modifiers left inside ih =>
      by_cases join : operator = .prox
      · subst operator
        have single := (eq_of_joinsWords (Catalog.joinsWords_of_accepts accepted)).2 inside
        exact .inr ⟨modifiers, left, _, .whole, .inr single⟩
      · have operand := (StandsIn.right join modifiers left .whole).accepts accepted
        rcases ih operand with stands | ⟨others, near, right, stands, same⟩
        · exact .inl (.right join modifiers left stands)
        · exact .inr ⟨others, near, right, .right join modifiers left stands, same⟩

namespace Catalog

/-- Every part of an accepted tree is an operand of `prox`, or stands in the tree otherwise and is
accepted on its own. Of the operands of `prox`, at least one has a word; each has a relation that
matches words, and is accepted on its own if nothing is wrong with it that `prox` does not look at.
-/
theorem engineQuery_accepts_subtrees (accepted : catalog.Accepts kind tree)
    : (∀ part : QueryTree, part.IsSubtree tree → part.StandsIn tree ∨ part.IsNearIn tree)
      ∧ (∀ part : QueryTree, part.StandsIn tree → catalog.Accepts kind part)
      ∧ ∀ modifiers left right,
        (QueryTree.boolean .prox modifiers left right).StandsIn tree
        → catalog.JoinsWords kind left right := by
  refine ⟨fun _ inside => inside.standsIn_or_isNearIn accepted, fun _ inside =>
    inside.accepts accepted, ?_⟩
  intro modifiers left right inside
  exact joinsWords_of_accepts (inside.accepts accepted)

/-- Words near each other, but without a third one. -/
def nearWithoutThird : QueryTree :=
  .boolean .not []
    (.boolean .prox [] (titleClause (.comparison .equal) "a") (titleClause (.named "adj") "b c"))
    (titleClause (.comparison .different) "d")

theorem engineQuery_accepts_subtrees_nearWithoutThird
    : titles.Accepts .search nearWithoutThird
      ∧ (∀ part : QueryTree,
        part.IsSubtree nearWithoutThird
        → part.StandsIn nearWithoutThird ∨ part.IsNearIn nearWithoutThird)
      ∧ (∀ part : QueryTree, part.StandsIn nearWithoutThird → titles.Accepts .search part)
      ∧ ∀ modifiers left right,
        (QueryTree.boolean .prox modifiers left right).StandsIn nearWithoutThird
        → titles.JoinsWords .search left right := by
  have accepted : titles.Accepts .search nearWithoutThird := ⟨_, rfl⟩
  exact ⟨accepted, engineQuery_accepts_subtrees accepted⟩

/-- Every part of the tree is accepted on its own. -/
def AcceptsSubtrees (catalog : Catalog) (kind : QueryKind) (tree : QueryTree) : Prop :=
  ∀ part : QueryTree, part.IsSubtree tree → catalog.Accepts kind part

theorem not_acceptsSubtrees {modifiers : List Modifier} {left right : QueryTree}
    {error : CompilationError}
    (refused : catalog.engineQuery kind left = .error error
      ∨ catalog.engineQuery kind right = .error error)
    : ¬ catalog.AcceptsSubtrees kind (.boolean .prox modifiers left right) := by
  intro accepts
  rcases refused with refused | refused
  · obtain ⟨query, found⟩ := accepts left (.left .prox modifiers right .whole)
    cases refused.symm.trans found
  · obtain ⟨query, found⟩ := accepts right (.right .prox modifiers left .whole)
    cases refused.symm.trans found

/-- A catalog in which one field is the text of one index and the number of another. -/
def titlesAsNumbers : Catalog :=
  {
    defaultIndex := "title"
    collectionIndex := "title"
    fields := [("number", .literal "term.title" .numeric), ("title", .text "term.title")]
    has_default := by decide
    has_collection := by decide
  }

/-- A term without words near one that has a word. -/
def emptyNearWord : QueryTree :=
  .boolean .prox [] (titleClause (.comparison .equal) "") (titleClause (.comparison .equal) "b")

/-- A clause whose modifier's name is not well formed, near another one. -/
def misnamedNearWord : QueryTree :=
  .boolean .prox []
    (.search {
      SearchClause.bare "a" 0 with
      modifiers := [{ name := "9x", comparison := none, offset := 0 }]
    })
    (titleClause (.comparison .equal) "b")

/-- A word near a value that is no number. -/
def wordNearNumber : QueryTree :=
  .boolean .prox [] (titleClause (.comparison .equal) "a")
    (.search { SearchClause.bare "b" 0 with index := some "number" })

/-- What `prox` does not look at may be wrong with its operands. -/
theorem engineQuery_accepts_near_refused
    : (titles.Accepts .search emptyNearWord ∧ ¬ titles.AcceptsSubtrees .search emptyNearWord)
      ∧ (titles.Accepts .search misnamedNearWord
        ∧ ¬ titles.AcceptsSubtrees .search misnamedNearWord)
      ∧ titlesAsNumbers.Accepts .search wordNearNumber
      ∧ ¬ titlesAsNumbers.AcceptsSubtrees .search wordNearNumber := by
  refine ⟨⟨⟨_, rfl⟩, ?_⟩, ⟨⟨_, rfl⟩, ?_⟩, ⟨_, rfl⟩, ?_⟩
  · exact not_acceptsSubtrees (.inl rfl)
  · exact not_acceptsSubtrees (.inl rfl)
  · exact not_acceptsSubtrees (.inr rfl)

end Catalog

end CqlGateway
