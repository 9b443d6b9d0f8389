import CqlGateway.Proofs.Query.Grammar

/-! No tokens have two derivations. A part of a derivation is found from the front of tokens alone, if
what comes behind it could not have been a part of it.
-/

namespace CqlGateway.Grammar

variable {rest behind : List Token}

-----------------------------------------------------------------------------------------
-- Single tokens
-----------------------------------------------------------------------------------------

theorem TermToken.token_inj {first second : TermToken} (same : first.token = second.token)
    : first = second := by
  obtain ⟨data, offset⟩ := Token.mk.inj same
  obtain ⟨raw, value, quoted⟩ := TokenData.term.inj data
  cases first
  cases second
  simp_all

theorem RelationToken.token_inj {first second : RelationToken} (same : first.token = second.token)
    : first = second := by
  obtain ⟨relation, offset⟩ := first
  obtain ⟨other, place⟩ := second
  cases relation <;> cases other <;> simp_all [token]

theorem WordToken.token_inj {first second : WordToken} (same : first.token = second.token)
    : first = second := by
  cases first
  cases second
  simp_all

theorem RelationToken.kind_mem (relation : RelationToken)
    : relation.token.kind ∈ [TokenKind.comparison, .relation] := by
  obtain ⟨relation, offset⟩ := relation
  cases relation <;> simp [token, Token.kind, TokenData.kind]

-----------------------------------------------------------------------------------------
-- Modifiers and clauses
-----------------------------------------------------------------------------------------

/-- Whether a name is compared is found from the next token. -/
theorem comparisonTokens_unique {first second : Option (Comparison × Nat × TermToken)}
    (same
      : ModifierPhrase.comparisonTokens first ++ rest
        = ModifierPhrase.comparisonTokens second ++ behind)
    (stops : Avoids [.comparison] rest) (ends : Avoids [.comparison] behind)
    : first = second ∧ rest = behind := by
  cases first with
  | none =>
      cases second with
      | none => exact ⟨rfl, same⟩
      | some compared =>
          obtain rfl : rest = _ := same
          simp [ModifierPhrase.comparisonTokens, Token.kind, TokenData.kind] at stops
  | some compared =>
      cases second with
      | none =>
          obtain rfl : _ = behind := same
          simp [ModifierPhrase.comparisonTokens, Token.kind, TokenData.kind] at ends
      | some other =>
          obtain ⟨symbol, offset, value⟩ := compared
          obtain ⟨otherSymbol, otherOffset, otherValue⟩ := other
          simp only [ModifierPhrase.comparisonTokens, List.cons_append, List.nil_append,
            List.cons.injEq, Token.mk.injEq, TokenData.comparison.injEq] at same
          obtain ⟨⟨rfl, rfl⟩, sameValue, rfl⟩ := same
          obtain rfl := TermToken.token_inj sameValue
          exact ⟨rfl, rfl⟩

/-- Modifiers are found from their tokens, by list induction. -/
theorem modifierTokens_unique {first second : List ModifierPhrase}
    (same : modifierTokens first ++ rest = modifierTokens second ++ behind)
    (stops : Avoids [.slash, .comparison] rest) (ends : Avoids [.slash, .comparison] behind)
    : first = second ∧ rest = behind := by
  induction first generalizing second with
  | nil =>
      cases second with
      | nil => exact ⟨rfl, same⟩
      | cons phrase others =>
          obtain rfl : rest = _ := same
          simp [modifierTokens, ModifierPhrase.tokens, Token.kind, TokenData.kind] at stops
  | cons phrase others ih =>
      cases second with
      | nil =>
          obtain rfl : _ = behind := same
          simp [modifierTokens, ModifierPhrase.tokens, Token.kind, TokenData.kind] at ends
      | cons other more =>
          obtain ⟨slash, name, comparison⟩ := phrase
          obtain ⟨otherSlash, otherName, otherComparison⟩ := other
          simp only [modifierTokens, List.flatMap_cons, ModifierPhrase.tokens, List.cons_append,
            List.append_assoc, List.cons.injEq, Token.mk.injEq, true_and] at same
          obtain ⟨rfl, sameName, same⟩ := same
          obtain rfl := TermToken.token_inj sameName
          obtain ⟨rfl, later⟩ := comparisonTokens_unique same
            (avoids_modifierTokens (by simp) others (stops.mono (by simp)))
            (avoids_modifierTokens (by simp) more (ends.mono (by simp)))
          obtain ⟨rfl, rfl⟩ := ih later
          exact ⟨rfl, rfl⟩

/-- A clause is found from its tokens: a relation comes second unless the term is on its own. -/
theorem clauseTokens_unique {first second : ClausePhrase}
    (same : first.tokens ++ rest = second.tokens ++ behind)
    (stops : Avoids [.comparison, .relation] rest) (ends : Avoids [.comparison, .relation] behind)
    : first = second ∧ rest = behind := by
  cases first with
  | bare term =>
      cases second with
      | bare other =>
          obtain ⟨sameTerm, rfl⟩ := List.cons.inj same
          obtain rfl := TermToken.token_inj sameTerm
          exact ⟨rfl, rfl⟩
      | qualified index relation modifiers word =>
          obtain ⟨_, rfl⟩ := List.cons.inj same
          exact absurd relation.kind_mem (avoids_cons.mp stops)
  | qualified index relation modifiers word =>
      cases second with
      | bare term =>
          obtain ⟨_, rfl⟩ := List.cons.inj same
          exact absurd relation.kind_mem (avoids_cons.mp ends)
      | qualified otherIndex otherRelation otherModifiers otherWord =>
          simp only [ClausePhrase.tokens, List.cons_append, List.append_assoc, List.nil_append,
            List.cons.injEq] at same
          obtain ⟨sameIndex, sameRelation, same⟩ := same
          obtain rfl := TermToken.token_inj sameIndex
          obtain rfl := RelationToken.token_inj sameRelation
          obtain ⟨rfl, later⟩ := modifierTokens_unique same
            (avoids_cons.mpr (word.kind_notMem (by simp)))
            (avoids_cons.mpr (otherWord.kind_notMem (by simp)))
          obtain ⟨sameWord, rfl⟩ := List.cons.inj later
          obtain rfl := WordToken.token_inj sameWord
          exact ⟨rfl, rfl⟩

-----------------------------------------------------------------------------------------
-- Operands and operators
-----------------------------------------------------------------------------------------

/-- An operator and its modifiers are found from their tokens. -/
theorem operatorTokens_unique {first second : OperatorPhrase}
    (same : first.tokens ++ rest = second.tokens ++ behind)
    (stops : Avoids [.slash, .comparison] rest) (ends : Avoids [.slash, .comparison] behind)
    : first = second ∧ rest = behind := by
  obtain ⟨operator, word, offset, modifiers, bare⟩ := first
  obtain ⟨otherOperator, otherWord, otherOffset, otherModifiers, otherBare⟩ := second
  simp only [OperatorPhrase.tokens, List.cons_append, List.cons.injEq, Token.mk.injEq,
    TokenData.operator.injEq] at same
  obtain ⟨⟨⟨rfl, rfl⟩, rfl⟩, same⟩ := same
  obtain ⟨rfl, rfl⟩ := modifierTokens_unique same stops ends
  exact ⟨rfl, rfl⟩

/-- No clause begins with a parenthesis. -/
theorem clauseTokens_ne_group {phrase : ClausePhrase} {opening : Nat} {tokens : List Token}
    : phrase.tokens ++ rest ≠ ⟨.openParen, opening⟩ :: tokens := by
  intro same
  obtain ⟨term, others, parts⟩ := phrase.head
  rw [parts] at same
  exact TokenData.noConfusion (Token.mk.inj (List.cons.inj same).1).1

mutual

/-- An operand is found from its tokens, by induction on it. -/
theorem operandTokens_unique {rest behind : List Token} (first second : Operand)
    (same : first.tokens ++ rest = second.tokens ++ behind)
    (stops : Avoids [.comparison, .relation] rest) (ends : Avoids [.comparison, .relation] behind)
    : first = second ∧ rest = behind :=
  match first, second with
  | .clause phrase, .clause other => by
      simp only [Operand.tokens] at same
      obtain ⟨rfl, rfl⟩ := clauseTokens_unique same stops ends
      exact ⟨rfl, rfl⟩
  | .clause phrase, .group .. => by
      simp only [Operand.tokens, List.cons_append] at same
      exact absurd same clauseTokens_ne_group
  | .group .., .clause phrase => by
      simp only [Operand.tokens, List.cons_append] at same
      exact absurd same.symm clauseTokens_ne_group
  | .group opening inner joined closing, .group otherOpening otherInner otherJoined otherClosing =>
      by
      simp only [Operand.tokens, List.cons_append, List.append_assoc, List.nil_append,
        List.cons.injEq, Token.mk.injEq, true_and] at same
      obtain ⟨rfl, same⟩ := same
      obtain ⟨rfl, later⟩ := operandTokens_unique inner otherInner same
        (avoids_joined (by simp) joined (avoids_cons.mpr (by simp [Token.kind, TokenData.kind])))
        (avoids_joined (by simp) otherJoined
          (avoids_cons.mpr (by simp [Token.kind, TokenData.kind])))
      obtain ⟨rfl, closed⟩ := joinedTokens_unique joined otherJoined later
        (avoids_cons.mpr (by simp [Token.kind, TokenData.kind]))
        (avoids_cons.mpr (by simp [Token.kind, TokenData.kind]))
      simp only [List.cons.injEq, Token.mk.injEq, true_and] at closed
      obtain ⟨rfl, rfl⟩ := closed
      exact ⟨rfl, rfl⟩

/-- What is joined to an operand is found from its tokens, by induction on it. -/
theorem joinedTokens_unique {rest behind : List Token} (first second : Joined)
    (same : first.tokens ++ rest = second.tokens ++ behind)
    (stops : Avoids [.comparison, .relation, .operator] rest)
    (ends : Avoids [.comparison, .relation, .operator] behind)
    : first = second ∧ rest = behind :=
  match first, second with
  | .none, .none => by
      simpa only [Joined.tokens, List.nil_append, true_and] using same
  | .none, .more operator .. => by
      simp only [Joined.tokens, List.nil_append] at same
      subst same
      simp [OperatorPhrase.tokens, Token.kind, TokenData.kind] at stops
  | .more operator .., .none => by
      simp only [Joined.tokens, List.nil_append] at same
      subst same
      simp [OperatorPhrase.tokens, Token.kind, TokenData.kind] at ends
  | .more operator right others, .more otherOperator otherRight more => by
      simp only [Joined.tokens, List.append_assoc] at same
      obtain ⟨rfl, operands⟩ := operatorTokens_unique same (avoids_operand (by simp) right)
        (avoids_operand (by simp) otherRight)
      obtain ⟨rfl, later⟩ := operandTokens_unique right otherRight operands
        (avoids_joined (by simp) others (stops.mono (by simp)))
        (avoids_joined (by simp) more (ends.mono (by simp)))
      obtain ⟨rfl, rfl⟩ := joinedTokens_unique others more later stops ends
      exact ⟨rfl, rfl⟩

end

-----------------------------------------------------------------------------------------
-- Queries
-----------------------------------------------------------------------------------------

/-- Sort keys are found from their tokens, by list induction. -/
theorem keyTokens_unique {first second : List KeyPhrase}
    (same : first.flatMap KeyPhrase.tokens = second.flatMap KeyPhrase.tokens)
    : first = second := by
  induction first generalizing second with
  | nil =>
      cases second with
      | nil => rfl
      | cons => cases same
  | cons phrase others ih =>
      cases second with
      | nil => cases same
      | cons other more =>
          obtain ⟨index, modifiers⟩ := phrase
          obtain ⟨otherIndex, otherModifiers⟩ := other
          simp only [List.flatMap_cons, KeyPhrase.tokens, List.cons_append, List.cons.injEq] at same
          obtain ⟨sameIndex, same⟩ := same
          obtain rfl := TermToken.token_inj sameIndex
          obtain ⟨rfl, later⟩ := modifierTokens_unique same
            (avoids_keyTokens (by simp) others) (avoids_keyTokens (by simp) more)
          rw [ih later]

theorem sortTokens_unique {first second : Option SortPhrase}
    (same : SortPhrase.tokens? first = SortPhrase.tokens? second)
    : first = second := by
  cases first with
  | none =>
      cases second with
      | none => rfl
      | some => cases same
  | some phrase =>
      cases second with
      | none => cases same
      | some other =>
          obtain ⟨word, offset, keys, nonempty⟩ := phrase
          obtain ⟨otherWord, otherOffset, otherKeys, otherNonempty⟩ := other
          simp only [SortPhrase.tokens?, SortPhrase.tokens, List.cons.injEq, Token.mk.injEq,
            TokenData.sortBy.injEq] at same
          obtain ⟨⟨rfl, rfl⟩, sameKeys⟩ := same
          obtain rfl := keyTokens_unique sameKeys
          rfl

/-- Derivations of the same tokens are the same. -/
theorem Derivation.tokens_inj {first second : Derivation} (same : first.tokens = second.tokens)
    : first = second := by
  obtain ⟨operand, joined, sort⟩ := first
  obtain ⟨otherOperand, otherJoined, otherSort⟩ := second
  simp only [Derivation.tokens, List.append_assoc] at same
  obtain ⟨rfl, afterOperand⟩ := operandTokens_unique operand otherOperand same
    (avoids_joined (by simp) joined (avoids_sort (by simp) sort))
    (avoids_joined (by simp) otherJoined (avoids_sort (by simp) otherSort))
  obtain ⟨rfl, afterJoined⟩ := joinedTokens_unique joined otherJoined afterOperand
    (avoids_sort (by simp) sort) (avoids_sort (by simp) otherSort)
  obtain rfl := sortTokens_unique afterJoined
  rfl

end CqlGateway.Grammar
