import CqlGateway.Proofs.Compilation.Preservation
import CqlGateway.Proofs.Term.Words

/-! The words of the clauses reach the engine: from left to right, the values of an engine query
have the words of the terms that it stands for. Some relations trim values without regard to what a
backslash takes literally; white space that is taken literally is lost at the end of such a value,
and nothing else is.
-/

namespace CqlGateway

open Term (KeepsWords KeepsUnlessTrimmed EndsInTakenSpace)

-----------------------------------------------------------------------------------------
-- Values
-----------------------------------------------------------------------------------------

/-- The value of a bound that has one. -/
def Bound.values : Bound → List String
  | .unbounded => []
  | .inclusive value | .exclusive value => [value]

/-- The values and bounds from left to right. -/
def MatchValue.values : MatchValue → List String
  | .term value | .phrase value => [value]
  | .proximity words _ => [words]
  | .range lower upper => lower.values ++ upper.values

/-- The values and bounds of all field matches. -/
def EngineQuery.values (query : EngineQuery) : List String :=
  query.leaves.flatMap fun condition => condition.value.values

/-- The words of the clause's term. -/
def SearchClause.words (clause : SearchClause) : List String :=
  Term.words clause.term

/-- True of a clause whose term does not end in a lone backslash. -/
def SearchClause.IsWhole (clause : SearchClause) : Prop :=
  .dangling ∉ Term.pieces clause.term.toList

-----------------------------------------------------------------------------------------
-- Clauses
-----------------------------------------------------------------------------------------

namespace ClauseTarget

variable {target : ClauseTarget} {term : String}

/-- What is trimmed of a term that is matched as a whole: on a field without words, the term. -/
def trimmedWhole (target : ClauseTarget) (term : String) : List String :=
  if target.field.isTokenized then [] else [term]

/-- What is trimmed of a term that is compared by `=`: nothing if it is a single word. -/
def trimmedEqual (target : ClauseTarget) (term : String) : List String :=
  match Term.words term with
  | [_] => []
  | _ => target.trimmedWhole term

/-- The values of a relation and a term that are trimmed before they are matched. -/
def trimmedValues (target : ClauseTarget) (relation : Relation) (term : String) : List String :=
  match relation with
  | .comparison .equal | .comparison .different => target.trimmedEqual term
  | .comparison .identical | .named "adj" | .named "exact" => target.trimmedWhole term
  | .comparison .less | .comparison .atMost | .comparison .greater | .comparison .atLeast => [term]
  | .named "within" => Term.words term
  | .named _ => []

theorem keeps_trim (whole : .dangling ∉ Term.pieces term.toList)
    : KeepsUnlessTrimmed [Text.trim term] (Term.words term) [term] := by
  have single : ∀ value ∈ [term], .dangling ∉ Term.pieces value.toList := by simpa using whole
  have keeps := KeepsUnlessTrimmed.map_trim single
  rwa [List.flatMap_singleton] at keeps

theorem keeps_wholeMatch (whole : .dangling ∉ Term.pieces term.toList)
    : KeepsUnlessTrimmed (target.wholeMatch term).value.values (Term.words term)
        (target.trimmedWhole term) := by
  unfold wholeMatch trimmedWhole
  split
  · exact .of_keepsWords (Term.keepsWords_joinWords (Term.isWord_of_whole whole))
  · exact keeps_trim whole

theorem keeps_equalMatch (whole : .dangling ∉ Term.pieces term.toList)
    : KeepsUnlessTrimmed (target.equalMatch term).value.values (Term.words term)
        (target.trimmedEqual term) := by
  have matched := @keeps_wholeMatch target term whole
  have keeps := Term.keepsWords_words whole
  unfold equalMatch trimmedEqual
  cases words : Term.words term with
  | nil =>
      rw [words] at matched
      exact matched
  | cons word others =>
      rw [words] at matched keeps
      cases others with
      | nil => exact .of_keepsWords keeps
      | cons next rest => exact matched

/-- The words of an accepted term, each matched on its own. -/
theorem keeps_termMatches (whole : .dangling ∉ Term.pieces term.toList)
    : KeepsUnlessTrimmed
        (((Term.words term).map target.termMatch).flatMap fun condition => condition.value.values)
        (Term.words term) [] := by
  have values : ((Term.words term).map target.termMatch).flatMap
      (fun condition => condition.value.values) = Term.words term := by
    simp [List.flatMap_map, termMatch, MatchValue.values]
  rw [values]
  exact .of_keepsWords (Term.keepsWords_words whole)

/-- The two words of a range. -/
theorem keeps_rangeMatch {low high : String} (whole : .dangling ∉ Term.pieces term.toList)
    (two : Term.words term = [low, high])
    : KeepsUnlessTrimmed [Text.trim low, Text.trim high] (Term.words term) (Term.words term) := by
  have keeps := Term.keepsWords_words whole
  rw [two] at keeps ⊢
  have trimmed := KeepsUnlessTrimmed.map_trim keeps.whole
  rwa [keeps.same] at trimmed

/-- The field matches of a relation and a term keep its words, by the relations that there are. -/
theorem keeps_fieldMatches (relation : Relation) (whole : .dangling ∉ Term.pieces term.toList)
    (some : target.fieldMatches relation term ≠ [])
    : KeepsUnlessTrimmed
        ((target.fieldMatches relation term).flatMap fun condition => condition.value.values)
        (Term.words term) (target.trimmedValues relation term) := by
  fun_cases fieldMatches target relation term with
  | case1 | case2 =>
      rw [List.flatMap_singleton]
      exact keeps_equalMatch whole
  | case3 | case8 | case9 =>
      rw [List.flatMap_singleton]
      exact keeps_wholeMatch whole
  | case4 | case5 | case6 | case7 =>
      rw [List.flatMap_singleton]
      exact keeps_trim whole
  | case10 | case11 => exact keeps_termMatches whole
  | case12 low high two =>
      rw [List.flatMap_singleton]
      exact keeps_rangeMatch whole two
  | case13 | case14 => simp_all [fieldMatches]

end ClauseTarget

-----------------------------------------------------------------------------------------
-- Trees
-----------------------------------------------------------------------------------------

/-- The clauses of a part from left to right. -/
def QueryUnit.clauses : QueryUnit → List SearchClause
  | .clause search => [search]
  | .near _ left right => left.clauses ++ right.clauses

theorem QueryTree.clauses_eq_flatMap_units (tree : QueryTree)
    : tree.clauses = tree.units.flatMap QueryUnit.clauses := by
  fun_induction units tree with
  | case1 clause => rfl
  | case2 modifiers left right => simp [clauses, QueryUnit.clauses]
  | case3 operator modifiers left right _ fromLeft fromRight =>
      rw [clauses, List.flatMap_append, fromLeft, fromRight]

namespace Catalog

variable {catalog : Catalog} {kind : QueryKind} {query : EngineQuery}

/-- The values of a part that are trimmed before they are matched. -/
def trimmedValues (catalog : Catalog) : QueryUnit → List String
  | .clause clause =>
      match catalog.target? clause with
      | some target => target.trimmedValues clause.relation clause.term
      | none => []
  | .near .. => []

/-- The words of both clauses are joined. -/
theorem keeps_nearMatch {modifiers : List Modifier} {left right : QueryTree}
    {condition : FieldMatch}
    (found : catalog.nearMatch? modifiers left right = some condition)
    (whole : ∀ clause ∈ left.clauses ++ right.clauses, clause.IsWhole)
    : KeepsWords condition.value.values
        ((left.clauses ++ right.clauses).flatMap SearchClause.words) := by
  obtain ⟨first, isFirst, found⟩ := Option.bind_eq_some_iff.mp found
  obtain ⟨second, isSecond, found⟩ := Option.bind_eq_some_iff.mp found
  obtain ⟨field, known, found⟩ := Option.bind_eq_some_iff.mp found
  obtain rfl := Option.some.inj found
  obtain rfl := QueryTree.clause?_eq_some.mp isFirst
  obtain rfl := QueryTree.clause?_eq_some.mp isSecond
  simp only [QueryTree.clauses, List.singleton_append, List.forall_mem_cons] at whole
  obtain ⟨wholeFirst, wholeSecond, -⟩ := whole
  have each := List.forall_mem_append.mpr
    ⟨Term.isWord_of_whole wholeFirst, Term.isWord_of_whole wholeSecond⟩
  have keeps := Term.keepsWords_joinWords each
  rw [List.map_append, ← Term.words_eq, ← Term.words_eq] at keeps
  have words : (QueryTree.clauses (.search first) ++ QueryTree.clauses (.search second)).flatMap
      SearchClause.words = first.words ++ second.words := by
    simp [QueryTree.clauses]
  rw [words]
  exact keeps

/-- The field matches of a part keep the words of its clauses. -/
theorem keeps_unitMatches {unit : QueryUnit} (whole : ∀ clause ∈ unit.clauses, clause.IsWhole)
    (some : catalog.unitMatches unit ≠ [])
    : KeepsUnlessTrimmed
        ((catalog.unitMatches unit).flatMap fun condition => condition.value.values)
        (unit.clauses.flatMap SearchClause.words) (catalog.trimmedValues unit) := by
  cases unit with
  | clause clause =>
      simp only [QueryUnit.clauses, List.forall_mem_singleton, List.flatMap_singleton] at whole ⊢
      simp only [unitMatches, trimmedValues] at some ⊢
      cases known : catalog.target? clause with
      | none => simp [known] at some
      | some target =>
          simp only [known] at some
          exact ClauseTarget.keeps_fieldMatches clause.relation whole some
  | near modifiers left right =>
      simp only [unitMatches] at some ⊢
      cases found : catalog.nearMatch? modifiers left right with
      | none => simp [found] at some
      | some condition =>
          rw [Option.toList_some, List.flatMap_singleton]
          exact .of_keepsWords (keeps_nearMatch found whole)

/-- From left to right, the values and bounds of an engine query have the words of the clauses'
terms, none lost and none altered, and none ends in a lone backslash. The only exception is a value
that is trimmed with white space at its end that is taken literally.
-/
theorem engineQuery_keeps_words_iff {tree : QueryTree}
    (found : catalog.engineQuery kind tree = .ok query)
    (whole : ∀ clause ∈ tree.clauses, clause.IsWhole)
    : KeepsWords query.values (tree.clauses.flatMap SearchClause.words)
      ↔ ∀ value ∈ tree.units.flatMap catalog.trimmedValues, ¬ EndsInTakenSpace value := by
  have preserved := engineQuery_eq_ok found
  rw [tree.clauses_eq_flatMap_units] at whole ⊢
  rw [EngineQuery.values, preserved.leaves, List.flatMap_assoc, List.flatMap_assoc]
  simp only [List.forall_mem_flatMap] at whole
  refine KeepsUnlessTrimmed.keepsWords_iff (.flatMap fun unit member => ?_)
  exact keeps_unitMatches (whole unit member) (preserved.nonempty unit member)

/-- A catalog of a field of words and of one whose values are matched as a whole. -/
def titlesAndCodes : Catalog :=
  {
    defaultIndex := "title"
    collectionIndex := "code"
    fields := [("code", .literal "term.code" .string), ("title", .text "term.title")]
    has_default := by decide
    has_collection := by decide
  }

/-- A clause of the index of codes. -/
def codeClause (relation : Relation) (term : String) : QueryTree :=
  .search { SearchClause.bare term 0 with index := some "code", relation := relation }

/-- Spaces that are taken literally, also at the end of words that are not trimmed. -/
def takenSpaces : QueryTree :=
  .boolean .or []
    (.boolean .and [] (titleClause (.named "any") "a\\ b  c\\ ")
      (codeClause (.comparison .identical) " a\\ b "))
    (.boolean .prox [] (titleClause (.comparison .equal) "x\\ ")
      (titleClause (.named "adj") " y  z"))

theorem engineQuery_keeps_words_iff_takenSpaces
    : ∃ query,
        titlesAndCodes.engineQuery .search takenSpaces = .ok query
        ∧ takenSpaces.units.flatMap titlesAndCodes.trimmedValues = [" a\\ b "]
        ∧ KeepsWords query.values ["a\\ b", "c\\ ", "a\\ b", "x\\ ", "y", "z"] := by
  have found : titlesAndCodes.engineQuery .search takenSpaces
      = .ok (.or [
        .and [
          .or [.term "term.title" .masked "a\\ b", .term "term.title" .masked "c\\ "],
          .term "term.code" .literal "a\\ b"
        ],
        .leaf {
          field := "term.title"
          escaping := .masked
          value := .proximity "x\\  y z" 1
        }
      ]) := by
    rfl
  have whole : ∀ clause ∈ takenSpaces.clauses, clause.IsWhole := by
    unfold SearchClause.IsWhole
    decide
  have words : takenSpaces.clauses.flatMap SearchClause.words
      = ["a\\ b", "c\\ ", "a\\ b", "x\\ ", "y", "z"] := by
    decide
  have trimmed : takenSpaces.units.flatMap titlesAndCodes.trimmedValues = [" a\\ b "] := by
    decide
  have keeps := (engineQuery_keeps_words_iff found whole).mpr (by rw [trimmed]; decide)
  rw [words] at keeps
  exact ⟨_, found, trimmed, keeps⟩

/-- A whole value is trimmed of the space that its backslash takes, and the backslash stays alone.
-/
theorem engineQuery_loses_taken_space
    : ∃ query,
        titlesAndCodes.engineQuery .search (codeClause (.comparison .identical) "a\\ ") = .ok query
        ∧ (∀ clause ∈ (codeClause (.comparison .identical) "a\\ ").clauses, clause.IsWhole)
        ∧ ¬ KeepsWords query.values (Term.words "a\\ ") := by
  have found : titlesAndCodes.engineQuery .search (codeClause (.comparison .identical) "a\\ ")
      = .ok (.term "term.code" .literal "a\\") := by
    rfl
  refine ⟨_, found, ?_, ?_⟩
  · unfold SearchClause.IsWhole
    decide
  · intro keeps
    exact keeps.whole "a\\" (by decide) (by decide)

end Catalog

end CqlGateway
