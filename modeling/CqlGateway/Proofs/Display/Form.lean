import CqlGateway.Proofs.Display.MaskedQuotes
import CqlGateway.Query.Display

/-! Queries by what is read back from their display: the form that all parsed queries have, the
names and values that are displayed as they are, and what is not displayed.
-/

namespace CqlGateway

-----------------------------------------------------------------------------------------
-- Plain names
-----------------------------------------------------------------------------------------

/-- A name that is written in a query as it is: nothing in it ends it, is decoded or begins a quoted
term.
-/
structure Term.IsPlain (name : String) : Prop where
  ne_empty : name ≠ ""
  opens : ∀ first ∈ name.toList.head?, first ≠ '"' ∧ first ≠ '\''
  inside : ∀ character ∈ name.toList,
    Text.isWhiteSpace character = false ∧ character ∉ ['\\', '(', ')', '=', '<', '>', '/']

instance (name : String) : Decidable (Term.IsPlain name) :=
  have : Decidable (∀ first ∈ name.toList.head?, first ≠ '"' ∧ first ≠ '\'') :=
    Option.decidableForallMem name.toList.head?
  have := List.decidableBAll
    (fun character =>
      Text.isWhiteSpace character = false ∧ character ∉ ['\\', '(', ')', '=', '<', '>', '/'])
    name.toList
  decidable_of_iff (name ≠ "" ∧ _ ∧ _)
    ⟨fun ⟨length, opens, inside⟩ => ⟨length, opens, inside⟩,
      fun ⟨length, opens, inside⟩ => ⟨length, opens, inside⟩⟩

namespace Term.IsPlain

variable {name : String}

theorem isRun (plain : IsPlain name) : Vocabulary.IsRun name.toList := by
  refine Vocabulary.isRun_of_inside (by simpa using plain.ne_empty) plain.opens ?_
  intro character member
  obtain ⟨visible, noMark⟩ := plain.inside character member
  simp only [List.mem_cons, List.not_mem_nil, or_false, not_or] at noMark
  simp [Vocabulary.endsRun, Vocabulary.isDelimiter, visible, noMark]

theorem decode (plain : IsPlain name) : decode name = name := by
  have noEscape : ∀ character ∈ name.toList, character ≠ '\\' := by
    rintro character member rfl
    exact (plain.inside _ member).2 (by simp)
  have parts := @Term.pieces_append [] _ noEscape
  rw [List.append_nil] at parts
  rw [Term.decode, parts]
  simp [pieces, Function.comp_def, Piece.meant]

end Term.IsPlain

-----------------------------------------------------------------------------------------
-- Spelling
-----------------------------------------------------------------------------------------

/-- Conditions on what is displayed as it is, without quotes. -/
structure Spelling where
  /-- On indexes, sort keys and the names of modifiers. -/
  name : String → Prop
  /-- On what modifiers are compared with. -/
  value : String → Prop
  operator : BooleanOperator → Prop

structure Modifier.IsSpelled (spelling : Spelling) (modifier : Modifier) : Prop where
  name : spelling.name modifier.name
  value : ∀ compared ∈ modifier.comparison, spelling.value compared.2

structure SearchClause.IsSpelled (spelling : Spelling) (clause : SearchClause) : Prop where
  index : ∀ index ∈ clause.index, spelling.name index
  modifiers : ∀ modifier ∈ clause.modifiers, modifier.IsSpelled spelling

def QueryTree.IsSpelled (spelling : Spelling) : QueryTree → Prop
  | .search clause => clause.IsSpelled spelling
  | .boolean operator modifiers left right =>
      spelling.operator operator
        ∧ (∀ modifier ∈ modifiers, modifier.IsSpelled spelling)
        ∧ left.IsSpelled spelling
        ∧ right.IsSpelled spelling

structure SortKey.IsSpelled (spelling : Spelling) (key : SortKey) : Prop where
  index : spelling.name key.index
  modifiers : ∀ modifier ∈ key.modifiers, modifier.IsSpelled spelling

structure CqlQuery.IsSpelled (spelling : Spelling) (query : CqlQuery) : Prop where
  root : query.root.IsSpelled spelling
  sort : ∀ keys ∈ query.sort, ∀ key ∈ keys, key.IsSpelled spelling

section Decidable

variable (spelling : Spelling) [DecidablePred spelling.name] [DecidablePred spelling.value]
  [DecidablePred spelling.operator]

instance (modifier : Modifier) : Decidable (modifier.IsSpelled spelling) :=
  decidable_of_iff
    (spelling.name modifier.name ∧ ∀ compared ∈ modifier.comparison, spelling.value compared.2)
    ⟨fun ⟨name, value⟩ => ⟨name, value⟩, fun ⟨name, value⟩ => ⟨name, value⟩⟩

instance (clause : SearchClause) : Decidable (clause.IsSpelled spelling) :=
  decidable_of_iff
    ((∀ index ∈ clause.index, spelling.name index)
      ∧ ∀ modifier ∈ clause.modifiers, modifier.IsSpelled spelling)
    ⟨fun ⟨index, modifiers⟩ => ⟨index, modifiers⟩, fun ⟨index, modifiers⟩ => ⟨index, modifiers⟩⟩

def QueryTree.decidableIsSpelled : (tree : QueryTree) → Decidable (tree.IsSpelled spelling)
  | .search clause => inferInstanceAs (Decidable (clause.IsSpelled spelling))
  | .boolean _ _ left right =>
      have := left.decidableIsSpelled
      have := right.decidableIsSpelled
      inferInstanceAs (Decidable (_ ∧ _ ∧ _ ∧ _))

instance (tree : QueryTree) : Decidable (tree.IsSpelled spelling) :=
  tree.decidableIsSpelled spelling

instance (key : SortKey) : Decidable (key.IsSpelled spelling) :=
  decidable_of_iff
    (spelling.name key.index ∧ ∀ modifier ∈ key.modifiers, modifier.IsSpelled spelling)
    ⟨fun ⟨index, modifiers⟩ => ⟨index, modifiers⟩, fun ⟨index, modifiers⟩ => ⟨index, modifiers⟩⟩

instance (query : CqlQuery) : Decidable (query.IsSpelled spelling) :=
  decidable_of_iff
    (query.root.IsSpelled spelling ∧ ∀ keys ∈ query.sort, ∀ key ∈ keys, key.IsSpelled spelling)
    ⟨fun ⟨root, sort⟩ => ⟨root, sort⟩, fun ⟨root, sort⟩ => ⟨root, sort⟩⟩

end Decidable

/-- What meets the conditions of one spelling meets those of another one. -/
structure Spelling.Entails (spelling other : Spelling) : Prop where
  name : ∀ name, spelling.name name → other.name name
  value : ∀ value, spelling.value value → other.value value
  operator : ∀ operator, spelling.operator operator → other.operator operator

section Entails

variable {spelling other : Spelling} (entails : spelling.Entails other)

include entails

theorem Modifier.IsSpelled.mono {modifier : Modifier} (spelled : modifier.IsSpelled spelling)
    : modifier.IsSpelled other :=
  ⟨entails.name _ spelled.name,
    fun compared member => entails.value _ (spelled.value compared member)⟩

theorem SearchClause.IsSpelled.mono {clause : SearchClause} (spelled : clause.IsSpelled spelling)
    : clause.IsSpelled other :=
  ⟨fun index member => entails.name _ (spelled.index index member),
    fun modifier member => (spelled.modifiers modifier member).mono entails⟩

theorem QueryTree.IsSpelled.mono {tree : QueryTree} (spelled : tree.IsSpelled spelling)
    : tree.IsSpelled other := by
  induction tree with
  | search clause => exact SearchClause.IsSpelled.mono entails spelled
  | boolean operator modifiers left right leftMono rightMono =>
      obtain ⟨known, named, leftSpelled, rightSpelled⟩ := spelled
      exact ⟨entails.operator operator known,
        fun modifier member => (named modifier member).mono entails,
        leftMono leftSpelled, rightMono rightSpelled⟩

theorem CqlQuery.IsSpelled.mono {query : CqlQuery} (spelled : query.IsSpelled spelling)
    : query.IsSpelled other := by
  refine ⟨spelled.root.mono entails, ?_⟩
  intro keys present key member
  have sorted := spelled.sort keys present key member
  exact ⟨entails.name _ sorted.index,
    fun modifier member => (sorted.modifiers modifier member).mono entails⟩

end Entails

-----------------------------------------------------------------------------------------
-- Form
-----------------------------------------------------------------------------------------

/-- A relation that has a name has one of these. -/
def Relation.IsNamed (isRelation : String → Prop) : Relation → Prop
  | .comparison _ => True
  | .named name => isRelation name

instance (isRelation : String → Prop) [DecidablePred isRelation]
    : (relation : Relation) → Decidable (relation.IsNamed isRelation)
  | .comparison _ => inferInstanceAs (Decidable True)
  | .named name => inferInstanceAs (Decidable (isRelation name))

/-- A clause as it is parsed: without an index it is compared by `=` and has no modifiers, relations
have the names of relations, and no backslash stands alone at the end of the term.
-/
structure SearchClause.IsFormed (isRelation : String → Prop) (clause : SearchClause) : Prop where
  bare : clause.index = none → clause.relation = .comparison .equal ∧ clause.modifiers = []
  relation : clause.relation.IsNamed isRelation
  term : .dangling ∉ Term.pieces clause.term.toList

/-- Only `prox` has modifiers. -/
def QueryTree.IsFormed (isRelation : String → Prop) : QueryTree → Prop
  | .search clause => clause.IsFormed isRelation
  | .boolean operator modifiers left right =>
      (operator ≠ .prox → modifiers = [])
        ∧ left.IsFormed isRelation
        ∧ right.IsFormed isRelation

/-- A sort part has at least one key. -/
structure CqlQuery.IsFormed (isRelation : String → Prop) (query : CqlQuery) : Prop where
  root : query.root.IsFormed isRelation
  sort : query.sort ≠ some []

section Decidable

variable (isRelation : String → Prop) [DecidablePred isRelation]

instance (clause : SearchClause) : Decidable (clause.IsFormed isRelation) :=
  decidable_of_iff
    ((clause.index = none → clause.relation = .comparison .equal ∧ clause.modifiers = [])
      ∧ clause.relation.IsNamed isRelation
      ∧ .dangling ∉ Term.pieces clause.term.toList)
    ⟨fun ⟨bare, relation, term⟩ => ⟨bare, relation, term⟩,
      fun ⟨bare, relation, term⟩ => ⟨bare, relation, term⟩⟩

def QueryTree.decidableIsFormed : (tree : QueryTree) → Decidable (tree.IsFormed isRelation)
  | .search clause => inferInstanceAs (Decidable (clause.IsFormed isRelation))
  | .boolean _ _ left right =>
      have := left.decidableIsFormed
      have := right.decidableIsFormed
      inferInstanceAs (Decidable (_ ∧ _ ∧ _))

instance (tree : QueryTree) : Decidable (tree.IsFormed isRelation) :=
  tree.decidableIsFormed isRelation

instance (query : CqlQuery) : Decidable (query.IsFormed isRelation) :=
  decidable_of_iff (query.root.IsFormed isRelation ∧ query.sort ≠ some [])
    ⟨fun ⟨root, sort⟩ => ⟨root, sort⟩, fun ⟨root, sort⟩ => ⟨root, sort⟩⟩

end Decidable

section Mono

variable {isRelation isOther : String → Prop} (named : ∀ name, isRelation name → isOther name)

include named

theorem Relation.IsNamed.mono {relation : Relation} (known : relation.IsNamed isRelation)
    : relation.IsNamed isOther := by
  cases relation with
  | comparison => exact trivial
  | named name => exact named name known

theorem QueryTree.IsFormed.mono {tree : QueryTree} (formed : tree.IsFormed isRelation)
    : tree.IsFormed isOther := by
  induction tree with
  | search clause =>
      exact ⟨formed.bare, formed.relation.mono named, formed.term⟩
  | boolean operator modifiers left right leftMono rightMono =>
      exact ⟨formed.1, leftMono formed.2.1, rightMono formed.2.2⟩

theorem CqlQuery.IsFormed.mono {query : CqlQuery} (formed : query.IsFormed isRelation)
    : query.IsFormed isOther :=
  ⟨formed.root.mono named, formed.sort⟩

end Mono

/-- How many operators lie on the longest path. -/
def QueryTree.height : QueryTree → Nat
  | .search _ => 0
  | .boolean _ _ left right => max left.height right.height + 1

-----------------------------------------------------------------------------------------
-- What is not displayed
-----------------------------------------------------------------------------------------

def Modifier.withoutOffset (modifier : Modifier) : Modifier :=
  { modifier with offset := 0 }

def SearchClause.withoutOffsets (clause : SearchClause) : SearchClause :=
  {
    clause with
    modifiers := clause.modifiers.map Modifier.withoutOffset
    offset := 0
  }

def SearchClause.withMaskedQuotes (clause : SearchClause) : SearchClause :=
  { clause with term := Term.withMaskedQuotes clause.term }

namespace QueryTree

def withoutOffsets : QueryTree → QueryTree
  | .search clause => .search clause.withoutOffsets
  | .boolean operator modifiers left right =>
      .boolean operator (modifiers.map Modifier.withoutOffset) left.withoutOffsets
        right.withoutOffsets

def withMaskedQuotes : QueryTree → QueryTree
  | .search clause => .search clause.withMaskedQuotes
  | .boolean operator modifiers left right =>
      .boolean operator modifiers left.withMaskedQuotes right.withMaskedQuotes

end QueryTree

def SortKey.withoutOffsets (key : SortKey) : SortKey :=
  { key with modifiers := key.modifiers.map Modifier.withoutOffset }

namespace CqlQuery

/-- The query with the offset zero in all places. -/
def withoutOffsets (query : CqlQuery) : CqlQuery :=
  {
    root := query.root.withoutOffsets
    sort := query.sort.map (List.map SortKey.withoutOffsets)
  }

/-- The query with a backslash before each bare double quote of its terms. -/
def withMaskedQuotes (query : CqlQuery) : CqlQuery :=
  { query with root := query.root.withMaskedQuotes }

end CqlQuery

variable {isRelation : String → Prop}

theorem modifiersText_withoutOffset (modifiers : List Modifier)
    : modifiersText (modifiers.map Modifier.withoutOffset) = modifiersText modifiers := by
  rw [modifiersText, List.map_map]
  rfl

theorem SearchClause.text_withoutOffsets (clause : SearchClause)
    : clause.withoutOffsets.text = clause.text := by
  simp only [text, withoutOffsets, modifiersText_withoutOffset]

theorem QueryTree.text_withoutOffsets (tree : QueryTree)
    : tree.withoutOffsets.text = tree.text := by
  induction tree with
  | search clause => exact clause.text_withoutOffsets
  | boolean operator modifiers left right leftSame rightSame =>
      simp only [withoutOffsets, text, modifiersText_withoutOffset, leftSame, rightSame]

/-- Offsets are not displayed. -/
theorem CqlQuery.text_withoutOffsets (query : CqlQuery)
    : query.withoutOffsets.text = query.text := by
  obtain ⟨root, sort⟩ := query
  cases sort with
  | none => exact root.text_withoutOffsets
  | some keys =>
      have each (key : SortKey) : key.withoutOffsets.text = key.text := by
        simp only [SortKey.text, SortKey.withoutOffsets, modifiersText_withoutOffset]
      simp only [text, withoutOffsets, Option.map_some, root.text_withoutOffsets, List.map_map,
        Function.comp_def, each]

theorem SearchClause.text_withMaskedQuotes {clause : SearchClause}
    (formed : clause.IsFormed isRelation)
    : clause.withMaskedQuotes.text = clause.text := by
  simp only [text, withMaskedQuotes, Term.quoted_eq,
    Term.withMaskedQuotes_withMaskedQuotes formed.term]

theorem QueryTree.text_withMaskedQuotes {tree : QueryTree} (formed : tree.IsFormed isRelation)
    : tree.withMaskedQuotes.text = tree.text := by
  induction tree with
  | search clause => exact clause.text_withMaskedQuotes formed
  | boolean operator modifiers left right leftSame rightSame =>
      simp only [withMaskedQuotes, text, leftSame formed.2.1, rightSame formed.2.2]

/-- Bare quotes are displayed like masked ones. -/
theorem CqlQuery.text_withMaskedQuotes {query : CqlQuery} (formed : query.IsFormed isRelation)
    : query.withMaskedQuotes.text = query.text := by
  simp only [text, withMaskedQuotes, QueryTree.text_withMaskedQuotes formed.root]

end CqlGateway
