import CqlGateway.Proofs.Display.Tokens
import CqlGateway.Proofs.Query.Parsing

/-! The display of a query is read back as the query if its names and values are scanned as terms:
its tokens have a derivation, in which each operator stands in parentheses of its own.
-/

namespace CqlGateway

open Grammar

/-- Names and values are displayed as terms of their own text, and operators are called by their
English words.
-/
def Vocabulary.verbatim (vocabulary : Vocabulary) : Spelling :=
  {
    name := fun name => Term.IsPlain name ∧ (vocabulary.classify name).kind = .term
    value := fun value => Vocabulary.IsRun value.toList ∧ (vocabulary.classify value).kind = .term
    operator := fun operator =>
      vocabulary.classify operator.word = .operator operator operator.word
  }

theorem Vocabulary.verbatim_entails_runs (vocabulary : Vocabulary)
    : vocabulary.verbatim.Entails vocabulary.runs :=
  ⟨fun _ known => known.1.isRun, fun _ known => known.1, fun _ known => known⟩

variable {vocabulary : Vocabulary} {tokens : List Token} {isRelation : String → Prop}

-----------------------------------------------------------------------------------------
-- Terms and modifiers
-----------------------------------------------------------------------------------------

theorem Vocabulary.classify_of_kind {run : String} (isTerm : (vocabulary.classify run).kind = .term)
    : vocabulary.classify run = .term run run false := by
  rcases vocabulary.classify_cases run with found | ⟨operator, found⟩ | ⟨name, found⟩ | found
  · simp [found, TokenData.kind] at isTerm
  · simp [found, TokenData.kind] at isTerm
  · simp [found, TokenData.kind] at isTerm
  · exact found

/-- An English word that stands for its operator is scanned as that operator. -/
theorem Vocabulary.classify_word {operator : BooleanOperator}
    (stands : vocabulary.booleans.operator? operator.word = some operator)
    : vocabulary.classify operator.word = .operator operator operator.word := by
  have noKeyword : Text.lowercase operator.word ≠ sortKeyword := by
    cases operator with
    | and | or | not | prox => decide +kernel
  simp only [classify, if_neg noKeyword, stands]

theorem exists_termToken {token : Token} {run : String}
    (isTerm : (vocabulary.classify run).kind = .term) (data : token.data = vocabulary.classify run)
    : ∃ term : TermToken, term.token = token ∧ term.value = run := by
  obtain ⟨_, offset⟩ := token
  rw [Vocabulary.classify_of_kind isTerm] at data
  obtain rfl := data
  exact ⟨⟨run, run, false, offset⟩, rfl, rfl⟩

theorem exists_modifierPhrase {modifier : Modifier}
    (spelled : modifier.IsSpelled vocabulary.verbatim)
    (data : tokens.map Token.data = modifier.tokenData vocabulary)
    : ∃ phrase : ModifierPhrase,
        phrase.tokens = tokens ∧ phrase.modifier.withoutOffset = modifier.withoutOffset := by
  obtain ⟨name, comparison, offset⟩ := modifier
  obtain ⟨plain, nameKind⟩ := spelled.name
  cases comparison with
  | none =>
      simp only [Modifier.tokenData, List.map_eq_cons_iff, List.map_eq_nil_iff] at data
      obtain ⟨⟨_, slash⟩, _, rfl, rfl, nameToken, _, rfl, isName, rfl⟩ := data
      obtain ⟨term, rfl, rfl⟩ := exists_termToken nameKind isName
      refine ⟨⟨slash, term, none⟩, rfl, ?_⟩
      simp [ModifierPhrase.modifier, Modifier.withoutOffset, TermToken.name_eq_decode, plain.decode]
  | some compared =>
      obtain ⟨symbol, value⟩ := compared
      obtain ⟨-, valueKind⟩ := spelled.value (symbol, value) rfl
      simp only [Modifier.tokenData, List.map_eq_cons_iff, List.map_eq_nil_iff] at data
      obtain ⟨⟨_, slash⟩, _, rfl, rfl, nameToken, _, rfl, isName, ⟨_, place⟩, _, rfl, rfl,
        valueToken, _, rfl, isValue, rfl⟩ := data
      obtain ⟨term, rfl, rfl⟩ := exists_termToken nameKind isName
      obtain ⟨valueTerm, rfl, rfl⟩ := exists_termToken valueKind isValue
      refine ⟨⟨slash, term, some (symbol, place, valueTerm)⟩, rfl, ?_⟩
      simp [ModifierPhrase.modifier, Modifier.withoutOffset, TermToken.name_eq_decode, plain.decode]

/-- Parts are found one after the other, by list induction. -/
theorem exists_parts {α β γ : Type} {written : β → List Token} {tokenData : α → List TokenData}
    {found : β → γ} {meant : α → γ} {parts : List α}
    (each
      : ∀ part ∈ parts, ∀ {tokens : List Token},
          tokens.map Token.data = tokenData part
          → ∃ phrase, written phrase = tokens ∧ found phrase = meant part)
    (data : tokens.map Token.data = parts.flatMap tokenData)
    : ∃ phrases : List β,
        phrases.flatMap written = tokens
        ∧ phrases.map found = parts.map meant := by
  induction parts generalizing tokens with
  | nil =>
      obtain rfl := List.map_eq_nil_iff.mp data
      exact ⟨[], rfl, rfl⟩
  | cons part others ih =>
      obtain ⟨first, later⟩ := List.forall_mem_cons.mp each
      rw [List.flatMap_cons, List.map_eq_append_iff] at data
      obtain ⟨front, behind, rfl, frontData, behindData⟩ := data
      obtain ⟨phrase, rfl, same⟩ := first frontData
      obtain ⟨phrases, rfl, sameOthers⟩ := ih later behindData
      exact ⟨phrase :: phrases, rfl, by rw [List.map_cons, List.map_cons, sameOthers, same]⟩

theorem exists_modifierPhrases {modifiers : List Modifier}
    (spelled : ∀ modifier ∈ modifiers, modifier.IsSpelled vocabulary.verbatim)
    (data : tokens.map Token.data = modifiers.flatMap (Modifier.tokenData vocabulary))
    : ∃ phrases : List ModifierPhrase,
        modifierTokens phrases = tokens
        ∧ phrases.map (Modifier.withoutOffset ∘ ModifierPhrase.modifier)
          = modifiers.map Modifier.withoutOffset :=
  exists_parts (fun modifier member => exists_modifierPhrase (spelled modifier member)) data

-----------------------------------------------------------------------------------------
-- Clauses and trees
-----------------------------------------------------------------------------------------

theorem exists_clausePhrase {clause : SearchClause}
    (spelled : clause.IsSpelled vocabulary.verbatim) (formed : clause.IsFormed isRelation)
    (data : tokens.map Token.data = clause.tokenData vocabulary)
    : ∃ phrase : ClausePhrase,
        phrase.tokens = tokens
        ∧ phrase.clause.withoutOffsets = clause.withMaskedQuotes.withoutOffsets := by
  obtain ⟨index, relation, modifiers, term, offset⟩ := clause
  cases index with
  | none =>
      obtain ⟨isEqual, none⟩ := formed.bare rfl
      obtain ⟨rfl, rfl⟩ : relation = .comparison .equal ∧ modifiers = [] := ⟨isEqual, none⟩
      simp only [SearchClause.tokenData, List.map_eq_cons_iff, List.map_eq_nil_iff] at data
      obtain ⟨⟨_, place⟩, _, rfl, rfl, rfl⟩ := data
      exact ⟨.bare ⟨Term.quoted term, Term.withMaskedQuotes term, true, place⟩, rfl, rfl⟩
  | some index =>
      obtain ⟨plain, indexKind⟩ := spelled.index index rfl
      simp only [SearchClause.tokenData, List.map_eq_cons_iff, List.map_eq_append_iff,
        List.map_eq_nil_iff] at data
      obtain ⟨indexToken, _, rfl, isIndex, ⟨_, relationPlace⟩, _, rfl, rfl, modifierTokens, _, rfl,
        modifierData, ⟨_, place⟩, _, rfl, rfl, rfl⟩ := data
      obtain ⟨indexTerm, rfl, rfl⟩ := exists_termToken indexKind isIndex
      obtain ⟨phrases, rfl, same⟩ := exists_modifierPhrases spelled.modifiers modifierData
      have word : Token.kind ⟨Term.tokenData term, place⟩ ∈
          [TokenKind.term, .operator, .relation, .sortBy] := by
        exact List.mem_cons_self
      refine ⟨.qualified indexTerm ⟨relation, relationPlace⟩ phrases ⟨_, word⟩, ?_, ?_⟩
      · cases relation with
        | comparison | named => rfl
      · simp only [ClausePhrase.clause, SearchClause.withoutOffsets, SearchClause.withMaskedQuotes,
          TermToken.name_eq_decode, plain.decode, List.map_map, same]
        rfl

/-- A tree has a derivation that is nested as deep as the tree is high, by induction on the tree. -/
theorem exists_operand {tree : QueryTree} (spelled : tree.IsSpelled vocabulary.verbatim)
    (formed : tree.IsFormed isRelation)
    (data : tokens.map Token.data = tree.tokenData vocabulary)
    : ∃ operand : Operand,
        operand.tokens = tokens
        ∧ operand.tree.withoutOffsets = tree.withMaskedQuotes.withoutOffsets
        ∧ operand.nesting = tree.height := by
  induction tree generalizing tokens with
  | search clause =>
      obtain ⟨phrase, rfl, same⟩ := exists_clausePhrase spelled formed data
      refine ⟨.clause phrase, ?_, ?_, ?_⟩
      · rw [Operand.tokens]
      · rw [Operand.tree, QueryTree.withoutOffsets, QueryTree.withMaskedQuotes,
          QueryTree.withoutOffsets, same]
      · rw [Operand.nesting, QueryTree.height]
  | boolean operator modifiers left right leftRead rightRead =>
      obtain ⟨-, named, leftSpelled, rightSpelled⟩ := spelled
      obtain ⟨bare, leftFormed, rightFormed⟩ := formed
      simp only [QueryTree.tokenData, List.map_eq_cons_iff, List.map_eq_append_iff,
        List.map_eq_nil_iff] at data
      obtain ⟨⟨_, opening⟩, _, rfl, rfl, leftTokens, _, rfl, leftData, ⟨_, place⟩, _, rfl, rfl,
        _, _, rfl, ⟨modifierTokens, rightTokens, rfl, modifierData, rightData⟩, ⟨_, closing⟩, _, rfl,
        rfl, rfl⟩ := data
      obtain ⟨leftOperand, rfl, leftSame, leftNesting⟩ := leftRead leftSpelled leftFormed leftData
      obtain ⟨rightOperand, rfl, rightSame, rightNesting⟩ :=
        rightRead rightSpelled rightFormed rightData
      obtain ⟨phrases, rfl, same⟩ := exists_modifierPhrases named modifierData
      have none : operator ≠ .prox → phrases = [] := by
        intro other
        rw [bare other] at same
        exact List.map_eq_nil_iff.mp same
      refine ⟨.group opening leftOperand
        (.more ⟨operator, operator.word, place, phrases, none⟩ rightOperand .none) closing,
        ?_, ?_, ?_⟩
      · simp [Operand.tokens, Joined.tokens, OperatorPhrase.tokens]
      · simp only [Operand.tree, Joined.treeFrom, QueryTree.withoutOffsets,
          QueryTree.withMaskedQuotes, leftSame, rightSame, List.map_map, same]
      · simp only [Operand.nesting, Joined.nesting, QueryTree.height, leftNesting, rightNesting,
          Nat.max_zero]

-----------------------------------------------------------------------------------------
-- Queries
-----------------------------------------------------------------------------------------

theorem exists_keyPhrase {key : SortKey} (spelled : key.IsSpelled vocabulary.verbatim)
    (data : tokens.map Token.data = key.tokenData vocabulary)
    : ∃ phrase : KeyPhrase,
        phrase.tokens = tokens ∧ phrase.key.withoutOffsets = key.withoutOffsets := by
  obtain ⟨index, modifiers⟩ := key
  obtain ⟨plain, indexKind⟩ := spelled.index
  simp only [SortKey.tokenData, List.map_eq_cons_iff] at data
  obtain ⟨indexToken, _, rfl, isIndex, modifierData⟩ := data
  obtain ⟨term, rfl, rfl⟩ := exists_termToken indexKind isIndex
  obtain ⟨phrases, rfl, same⟩ := exists_modifierPhrases spelled.modifiers modifierData
  refine ⟨⟨term, phrases⟩, rfl, ?_⟩
  simp only [KeyPhrase.key, SortKey.withoutOffsets, TermToken.name_eq_decode, plain.decode,
    List.map_map, same]

theorem exists_keyPhrases {keys : List SortKey}
    (spelled : ∀ key ∈ keys, key.IsSpelled vocabulary.verbatim)
    (data : tokens.map Token.data = keys.flatMap (SortKey.tokenData vocabulary))
    : ∃ phrases : List KeyPhrase,
        phrases.flatMap KeyPhrase.tokens = tokens
        ∧ phrases.map (SortKey.withoutOffsets ∘ KeyPhrase.key)
          = keys.map SortKey.withoutOffsets :=
  exists_parts (fun key member => exists_keyPhrase (spelled key member)) data

theorem exists_derivation {query : CqlQuery} (spelled : query.IsSpelled vocabulary.verbatim)
    (formed : query.IsFormed isRelation)
    (data : tokens.map Token.data = query.tokenData vocabulary)
    : ∃ derivation : Derivation,
        derivation.tokens = tokens
        ∧ derivation.query.withoutOffsets = query.withMaskedQuotes.withoutOffsets
        ∧ derivation.nesting = query.root.height := by
  obtain ⟨root, sort⟩ := query
  rw [CqlQuery.tokenData, List.map_eq_append_iff] at data
  obtain ⟨front, behind, rfl, rootData, sortData⟩ := data
  obtain ⟨operand, rfl, same, nesting⟩ := exists_operand spelled.root formed.root rootData
  cases sort with
  | none =>
      obtain rfl := List.map_eq_nil_iff.mp sortData
      refine ⟨⟨operand, .none, none⟩, ?_, ?_, ?_⟩
      · simp [Derivation.tokens, Joined.tokens, SortPhrase.tokens?]
      · simp only [Derivation.query, Joined.treeFrom, CqlQuery.withoutOffsets, same]
        rfl
      · simp [Derivation.nesting, Joined.nesting, nesting]
  | some keys =>
      simp only [List.map_eq_cons_iff] at sortData
      obtain ⟨⟨_, place⟩, _, rfl, rfl, keyData⟩ := sortData
      obtain ⟨phrases, rfl, sameKeys⟩ := exists_keyPhrases (spelled.sort keys rfl) keyData
      have nonempty : phrases ≠ [] := by
        rintro rfl
        have none : keys = [] := List.map_eq_nil_iff.mp sameKeys.symm
        exact formed.sort (congrArg some none)
      refine ⟨⟨operand, .none, some ⟨Vocabulary.sortKeyword, place, phrases, nonempty⟩⟩, ?_, ?_, ?_⟩
      · simp [Derivation.tokens, Joined.tokens, SortPhrase.tokens?, SortPhrase.tokens]
      · simp only [Derivation.query, Joined.treeFrom, CqlQuery.withoutOffsets,
          CqlQuery.withMaskedQuotes, same, Option.map_some, List.map_map, sameKeys]
      · simp [Derivation.nesting, Joined.nesting, nesting]

/-- The display of a query is accepted, as the query with masked quotes, if its names and values are
scanned as terms and it is not too high.
-/
theorem exists_parse_text {query : CqlQuery} (spelled : query.IsSpelled vocabulary.verbatim)
    (formed : query.IsFormed vocabulary.IsRelation) (bound : query.root.height ≤ maxNesting)
    : ∃ result,
        vocabulary.parse query.text = .ok result
        ∧ result.withoutOffsets = query.withMaskedQuotes.withoutOffsets := by
  have scans := Vocabulary.scans_query (spelled.mono vocabulary.verbatim_entails_runs) formed
  obtain ⟨tokens, last, scanned, data⟩ := scans.tokens
  obtain ⟨derivation, parts, same, nesting⟩ := exists_derivation spelled formed data
  exact ⟨derivation.query,
    Vocabulary.parse_eq_ok_of_derivation scanned parts (nesting ▸ bound), same⟩

end CqlGateway
