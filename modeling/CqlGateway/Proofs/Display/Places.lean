import CqlGateway.Proofs.Display.ReadBack
import CqlGateway.Proofs.Query.FirstMisfit

/-! What an accepted display says of the query: where its tokens may stand where they do, all names
and values were scanned as terms.
-/

namespace CqlGateway

open Grammar

namespace Vocabulary

/-- What can be displayed as it is: names that are written as they are, values that are runs, and
operators that their English words stand for.
-/
def displayable (vocabulary : Vocabulary) : Spelling :=
  {
    name := Term.IsPlain
    value := fun value => IsRun value.toList
    operator := fun operator => vocabulary.booleans.operator? operator.word = some operator
  }

instance (vocabulary : Vocabulary) : DecidablePred vocabulary.displayable.name := fun name =>
  inferInstanceAs (Decidable (Term.IsPlain name))

instance (vocabulary : Vocabulary) : DecidablePred vocabulary.displayable.value := fun value =>
  inferInstanceAs (Decidable (IsRun value.toList))

instance (vocabulary : Vocabulary) : DecidablePred vocabulary.displayable.operator := fun _ =>
  inferInstanceAs (Decidable (_ = _))

theorem displayable_entails_runs (vocabulary : Vocabulary)
    : vocabulary.displayable.Entails vocabulary.runs :=
  ⟨fun _ plain => plain.isRun, fun _ isRun => isRun, fun _ stands => classify_word stands⟩

end Vocabulary

variable {vocabulary : Vocabulary} {place next reached : Place} {run : String}
  {isRelation : String → Prop}

-----------------------------------------------------------------------------------------
-- Names and modifiers
-----------------------------------------------------------------------------------------

/-- Of terms and keywords, only terms may stand here. They lead to the next place. -/
structure TakesTerm (place next : Place) : Prop where
  term : ∀ raw value quoted, place.step (.term raw value quoted) = some next
  operator : ∀ operator word, place.step (.operator operator word) = none
  relation : ∀ name, place.step (.relation name) = none
  sortBy : ∀ word, place.step (.sortBy word) = none

/-- Where only terms may stand, a run was scanned as one. -/
theorem TakesTerm.of_step (takes : TakesTerm place next)
    (fits : place.step (vocabulary.classify run) = some reached)
    : (vocabulary.classify run).kind = .term ∧ reached = next := by
  rcases vocabulary.classify_cases run with found | ⟨operator, found⟩ | ⟨name, found⟩ | found
  · rw [found, takes.sortBy] at fits
    cases fits
  · rw [found, takes.operator] at fits
    cases fits
  · rw [found, takes.relation] at fits
    cases fits
  · rw [found, takes.term] at fits
    rw [found]
    exact ⟨rfl, (Option.some.inj fits).symm⟩

theorem takesTerm_operand (nesting : Nat) : TakesTerm (.operand nesting) (.leadingTerm nesting) :=
  ⟨fun _ _ _ => rfl, fun _ _ => rfl, fun _ => rfl, fun _ => rfl⟩

theorem takesTerm_modifierName (owner : ModifierOwner)
    : TakesTerm (.modifierName owner) (.namedModifier owner) :=
  ⟨fun _ _ _ => rfl, fun _ _ => rfl, fun _ => rfl, fun _ => rfl⟩

theorem takesTerm_modifierValue (owner : ModifierOwner)
    : TakesTerm (.modifierValue owner) (.modifiers owner) :=
  ⟨fun _ _ _ => rfl, fun _ _ => rfl, fun _ => rfl, fun _ => rfl⟩

/-- A modifier may follow. -/
def MayBeModified (owner : ModifierOwner) (place : Place) : Prop :=
  place = .modifiers owner ∨ place = .namedModifier owner

variable {owner : ModifierOwner}

theorem MayBeModified.step_slash (begins : MayBeModified owner place)
    : place.step .slash = some (.modifierName owner) := by
  rcases begins with rfl | rfl
  · rfl
  · rfl

theorem verbatim_of_modifier {modifier : Modifier} (begins : MayBeModified owner place)
    (spelled : modifier.IsSpelled vocabulary.displayable)
    (fits : place.after? (modifier.tokenData vocabulary) = some reached)
    : modifier.IsSpelled vocabulary.verbatim ∧ MayBeModified owner reached := by
  obtain ⟨name, comparison, offset⟩ := modifier
  cases comparison with
  | none =>
      simp only [Modifier.tokenData, Place.after?_cons_eq_some, begins.step_slash,
        Option.some.injEq, exists_eq_left'] at fits
      obtain ⟨named, isName, last⟩ := fits
      obtain ⟨nameKind, rfl⟩ := (takesTerm_modifierName owner).of_step isName
      obtain rfl := Option.some.inj last
      exact ⟨⟨⟨spelled.name, nameKind⟩, by simp⟩, .inr rfl⟩
  | some compared =>
      obtain ⟨symbol, value⟩ := compared
      simp only [Modifier.tokenData, Place.after?_cons_eq_some, begins.step_slash,
        Option.some.injEq, exists_eq_left'] at fits
      obtain ⟨named, isName, _, compares, valued, isValue, last⟩ := fits
      obtain ⟨nameKind, rfl⟩ := (takesTerm_modifierName owner).of_step isName
      obtain rfl := Option.some.inj compares
      obtain ⟨valueKind, rfl⟩ := (takesTerm_modifierValue owner).of_step isValue
      obtain rfl := Option.some.inj last
      refine ⟨⟨⟨spelled.name, nameKind⟩, ?_⟩, .inl rfl⟩
      intro compared member
      obtain rfl := Option.some.inj member
      exact ⟨spelled.value (symbol, value) rfl, valueKind⟩

/-- Modifiers lead to a place where one more may follow, by list induction. -/
theorem verbatim_of_modifiers {modifiers : List Modifier} (begins : MayBeModified owner place)
    (spelled : ∀ modifier ∈ modifiers, modifier.IsSpelled vocabulary.displayable)
    (fits : place.after? (modifiers.flatMap (Modifier.tokenData vocabulary)) = some reached)
    : (∀ modifier ∈ modifiers, modifier.IsSpelled vocabulary.verbatim)
      ∧ MayBeModified owner reached := by
  induction modifiers generalizing place with
  | nil =>
      obtain rfl := Option.some.inj fits
      exact ⟨by simp, begins⟩
  | cons modifier others ih =>
      obtain ⟨first, later⟩ := List.forall_mem_cons.mp spelled
      obtain ⟨middle, front, behind⟩ := Place.after?_append_eq_some.mp fits
      obtain ⟨firstVerbatim, goesOn⟩ := verbatim_of_modifier begins first front
      obtain ⟨laterVerbatim, ends⟩ := ih goesOn later behind
      exact ⟨List.forall_mem_cons.mpr ⟨firstVerbatim, laterVerbatim⟩, ends⟩

-----------------------------------------------------------------------------------------
-- Clauses and trees
-----------------------------------------------------------------------------------------

/-- An operand ends here. -/
def EndsOperand (nesting : Nat) (place : Place) : Prop :=
  place = .leadingTerm nesting ∨ place = .operandEnd nesting

theorem verbatim_of_clause {clause : SearchClause} {nesting : Nat}
    (spelled : clause.IsSpelled vocabulary.displayable) (formed : clause.IsFormed isRelation)
    (fits : (Place.operand nesting).after? (clause.tokenData vocabulary) = some reached)
    : clause.IsSpelled vocabulary.verbatim ∧ EndsOperand nesting reached := by
  obtain ⟨index, relation, modifiers, term, offset⟩ := clause
  cases index with
  | none =>
      obtain rfl : modifiers = [] := (formed.bare rfl).2
      obtain rfl := Option.some.inj fits
      exact ⟨⟨by simp, by simp⟩, .inl rfl⟩
  | some index =>
      simp only [SearchClause.tokenData, Place.after?_cons_eq_some,
        Place.after?_append_eq_some] at fits
      obtain ⟨leading, isIndex, related, isRelation, modified, hasModifiers, ended, isTerm, last⟩ :=
        fits
      obtain ⟨indexKind, rfl⟩ := (takesTerm_operand nesting).of_step isIndex
      obtain rfl : Place.modifiers (.relation nesting) = related := by
        cases relation with
        | comparison | named => exact Option.some.inj isRelation
      obtain ⟨verbatim, goesOn⟩ :=
        verbatim_of_modifiers (.inl rfl) spelled.modifiers hasModifiers
      obtain rfl : Place.operandEnd nesting = ended := by
        rcases goesOn with rfl | rfl
        · exact Option.some.inj isTerm
        · exact Option.some.inj isTerm
      obtain rfl := Option.some.inj last
      refine ⟨⟨?_, verbatim⟩, .inr rfl⟩
      intro name member
      obtain rfl := Option.some.inj member
      exact ⟨spelled.index index rfl, indexKind⟩

/-- A tree begins with a token that no modifier begins or goes on with. -/
theorem head_tokenData (tree : QueryTree)
    : ∃ first others,
        tree.tokenData vocabulary = first :: others
        ∧ first.kind ≠ .slash
        ∧ first.kind ≠ .comparison := by
  cases tree with
  | search clause =>
      obtain ⟨index, relation, modifiers, term, offset⟩ := clause
      cases index with
      | none =>
          refine ⟨_, _, rfl, ?_⟩
          simp [Term.tokenData, TokenData.kind]
      | some index =>
          refine ⟨_, _, rfl, ?_⟩
          rcases vocabulary.classify_cases index with found | ⟨_, found⟩ | ⟨_, found⟩ | found
          all_goals
            rw [found]
            simp [TokenData.kind]
  | boolean operator modifiers left right =>
      refine ⟨_, _, rfl, ?_⟩
      simp [TokenData.kind]

/-- Behind the modifiers of an operator a tree is read as in the operand's place. -/
theorem after?_of_mayBeModified {tree : QueryTree} {nesting : Nat}
    (begins : MayBeModified (.proximity nesting) place)
    : place.after? (tree.tokenData vocabulary)
      = (Place.operand nesting).after? (tree.tokenData vocabulary) := by
  obtain ⟨first, others, data, noSlash, noComparison⟩ := @head_tokenData vocabulary tree
  have same : place.step first = (Place.operand nesting).step first := by
    rcases begins with rfl | rfl
    all_goals
      cases first with
      | slash => exact absurd rfl noSlash
      | comparison => exact absurd rfl noComparison
      | _ => rfl
  rw [data, Place.after?, Place.after?, same]

theorem EndsOperand.step_operator {nesting : Nat} (ends : EndsOperand nesting place)
    (operator : BooleanOperator) (word : String)
    : place.step (.operator operator word)
      = some (if operator = .prox then .modifiers (.proximity nesting) else .operand nesting) := by
  rcases ends with rfl | rfl
  · cases nesting <;> rfl
  · cases nesting <;> rfl

/-- An operator leads to the place of its right operand, whether it has modifiers or not. -/
theorem verbatim_of_operator {operator : BooleanOperator} {modifiers : List Modifier}
    {right : QueryTree} {nesting : Nat} (begins : EndsOperand nesting place)
    (bare : operator ≠ .prox → modifiers = [])
    (spelled : ∀ modifier ∈ modifiers, modifier.IsSpelled vocabulary.displayable)
    (joins : place.step (.operator operator operator.word) = some next)
    (fits
      : next.after? (modifiers.flatMap (Modifier.tokenData vocabulary)
          ++ right.tokenData vocabulary)
        = some reached)
    : (∀ modifier ∈ modifiers, modifier.IsSpelled vocabulary.verbatim)
      ∧ (Place.operand nesting).after? (right.tokenData vocabulary) = some reached := by
  rw [begins.step_operator] at joins
  obtain rfl := Option.some.inj joins
  by_cases prox : operator = .prox
  · rw [if_pos prox] at fits
    obtain ⟨middle, modified, rightFits⟩ := Place.after?_append_eq_some.mp fits
    obtain ⟨verbatim, goesOn⟩ := verbatim_of_modifiers (.inl rfl) spelled modified
    rw [after?_of_mayBeModified goesOn] at rightFits
    exact ⟨verbatim, rightFits⟩
  · rw [if_neg prox] at fits
    obtain rfl := bare prox
    exact ⟨by simp, fits⟩

/-- A tree ends an operand, and each of its operators opened a parenthesis, by induction on it. -/
theorem verbatim_of_tree {tree : QueryTree} {nesting : Nat}
    (spelled : tree.IsSpelled vocabulary.displayable) (formed : tree.IsFormed isRelation)
    (within : nesting ≤ maxNesting)
    (fits : (Place.operand nesting).after? (tree.tokenData vocabulary) = some reached)
    : tree.IsSpelled vocabulary.verbatim
      ∧ nesting + tree.height ≤ maxNesting
      ∧ EndsOperand nesting reached := by
  induction tree generalizing nesting reached with
  | search clause =>
      obtain ⟨verbatim, ends⟩ := verbatim_of_clause spelled formed fits
      exact ⟨verbatim, within, ends⟩
  | boolean operator modifiers left right leftVerbatim rightVerbatim =>
      obtain ⟨stands, named, leftSpelled, rightSpelled⟩ := spelled
      obtain ⟨bare, leftFormed, rightFormed⟩ := formed
      obtain ⟨inner, opens, fits⟩ := Place.after?_cons_eq_some.mp fits
      obtain ⟨afterLeft, leftFits, fits⟩ := Place.after?_append_eq_some.mp fits
      obtain ⟨joined, joins, fits⟩ := Place.after?_cons_eq_some.mp fits
      obtain ⟨afterRight, rightFits, fits⟩ := Place.after?_append_eq_some.mp fits
      obtain ⟨outer, closes, last⟩ := Place.after?_cons_eq_some.mp fits
      obtain ⟨room, rfl⟩ : nesting < maxNesting ∧ Place.operand (nesting + 1) = inner := by
        rw [Place.step, Place.afterOperandBegin] at opens
        split at opens
        · next room => exact ⟨room, Option.some.inj opens⟩
        · cases opens
      obtain ⟨leftSpells, leftHeight, leftEnds⟩ :=
        leftVerbatim leftSpelled leftFormed room leftFits
      obtain ⟨modified, rightFits⟩ := verbatim_of_operator leftEnds bare named joins rightFits
      obtain ⟨rightSpells, rightHeight, rightEnds⟩ :=
        rightVerbatim rightSpelled rightFormed room rightFits
      obtain rfl : Place.operandEnd nesting = outer := by
        rcases rightEnds with rfl | rfl
        · exact Option.some.inj closes
        · exact Option.some.inj closes
      refine ⟨⟨Vocabulary.classify_word stands, modified, leftSpells, rightSpells⟩, ?_, ?_⟩
      · rw [QueryTree.height]
        omega
      · exact .inr (Option.some.inj last).symm

-----------------------------------------------------------------------------------------
-- Queries
-----------------------------------------------------------------------------------------

/-- Only a sort key may follow, or a modifier of the one before. -/
def ExpectsKey (place : Place) : Prop :=
  place = .sortBegin ∨ MayBeModified .sortKey place

theorem ExpectsKey.takesTerm (expects : ExpectsKey place)
    : TakesTerm place (.modifiers .sortKey) := by
  rcases expects with rfl | rfl | rfl
  all_goals exact ⟨fun _ _ _ => rfl, fun _ _ => rfl, fun _ => rfl, fun _ => rfl⟩

/-- Sort keys lead to a place where one more may follow, by list induction. -/
theorem verbatim_of_keys {keys : List SortKey} (begins : ExpectsKey place)
    (spelled : ∀ key ∈ keys, key.IsSpelled vocabulary.displayable)
    (fits : place.after? (keys.flatMap (SortKey.tokenData vocabulary)) = some reached)
    : ∀ key ∈ keys, key.IsSpelled vocabulary.verbatim := by
  induction keys generalizing place with
  | nil => simp
  | cons key others ih =>
      obtain ⟨first, later⟩ := List.forall_mem_cons.mp spelled
      obtain ⟨middle, keyFits, othersFit⟩ := Place.after?_append_eq_some.mp fits
      obtain ⟨named, isIndex, modified⟩ := Place.after?_cons_eq_some.mp keyFits
      obtain ⟨indexKind, rfl⟩ := begins.takesTerm.of_step isIndex
      obtain ⟨verbatim, goesOn⟩ := verbatim_of_modifiers (.inl rfl) first.modifiers modified
      rw [List.forall_mem_cons]
      exact ⟨⟨⟨first.index, indexKind⟩, verbatim⟩, ih (.inr goesOn) later othersFit⟩

theorem verbatim_of_query {query : CqlQuery}
    (spelled : query.IsSpelled vocabulary.displayable) (formed : query.IsFormed isRelation)
    (fits : (Place.operand 0).after? (query.tokenData vocabulary) = some reached)
    : query.IsSpelled vocabulary.verbatim ∧ query.root.height ≤ maxNesting := by
  obtain ⟨root, sort⟩ := query
  obtain ⟨afterRoot, rootFits, sortFits⟩ := Place.after?_append_eq_some.mp fits
  obtain ⟨rootVerbatim, height, ends⟩ :=
    verbatim_of_tree spelled.root formed.root (Nat.zero_le _) rootFits
  refine ⟨⟨rootVerbatim, ?_⟩, by simpa using height⟩
  intro keys present
  obtain rfl : sort = some keys := present
  obtain ⟨begun, begins, keysFit⟩ := Place.after?_cons_eq_some.mp sortFits
  obtain rfl : Place.sortBegin = begun := by
    rcases ends with rfl | rfl
    · exact Option.some.inj begins
    · exact Option.some.inj begins
  exact verbatim_of_keys (.inl rfl) (spelled.sort keys rfl) keysFit

end CqlGateway
