import CqlGateway.Proofs.Query.Grammar
import CqlGateway.Query.Parse

/-! What the parser accepts has a derivation: the tokens that were read are those of the derivation,
and what was read from them is what it derives.
-/

namespace CqlGateway.Parser

open Grammar

variable {last : Token} {tokens rest : List Token}

-----------------------------------------------------------------------------------------
-- Modifiers and clauses
-----------------------------------------------------------------------------------------

/-- A modifier in front of others that were read is that of a phrase in front of theirs. -/
theorem consModifier_eq_ok {read : List Modifier} (phrase : ModifierPhrase)
    (found
      : consModifier phrase.name.value
          (phrase.comparison.map fun (symbol, _, value) => (symbol, value.value))
          phrase.name.offset <$> modifiers last tokens
        = .ok (read, rest))
    (others
      : ∀ {later : List Modifier} {behind : List Token},
          modifiers last tokens = .ok (later, behind)
          → ∃ phrases,
            tokens = modifierTokens phrases ++ behind
            ∧ later = phrases.map ModifierPhrase.modifier)
    : ∃ phrases,
        phrase.tokens ++ tokens = modifierTokens phrases ++ rest
        ∧ read = phrases.map ModifierPhrase.modifier := by
  obtain ⟨⟨later, behind⟩, accepted, same⟩ := map_eq_ok found
  obtain ⟨phrases, rfl, rfl⟩ := others accepted
  obtain ⟨rfl, rfl⟩ := Prod.mk.inj same
  refine ⟨phrase :: phrases, by simp [modifierTokens], ?_⟩
  rw [List.map_cons, ModifierPhrase.modifier, TermToken.name_eq_decode]

/-- Modifiers that were read are those of phrases, by the shapes of their tokens. -/
theorem modifiers_eq_ok {read : List Modifier}
    (found : modifiers last tokens = .ok (read, rest))
    : ∃ phrases,
        tokens = modifierTokens phrases ++ rest
        ∧ read = phrases.map ModifierPhrase.modifier := by
  fun_induction modifiers last tokens generalizing read rest
  case case1 slash raw name quoted offset symbol symbolOffset rawValue value quotedValue valueOffset
      others ih =>
    exact consModifier_eq_ok ⟨slash, ⟨raw, name, quoted, offset⟩,
      some (symbol, symbolOffset, ⟨rawValue, value, quotedValue, valueOffset⟩)⟩ found ih
  case case2 => cases found
  case case3 slash raw name quoted offset others _ _ ih =>
    exact consModifier_eq_ok ⟨slash, ⟨raw, name, quoted, offset⟩, none⟩ found ih
  case case4 => cases found
  case case5 =>
    obtain ⟨rfl, rfl⟩ := Prod.mk.inj (Except.ok.inj found)
    exact ⟨[], rfl, rfl⟩

/-- A token that gives a text behind a relation is a word with that text. -/
theorem textAfterRelation?_eq_some {token : Token} {text : String}
    (found : textAfterRelation? token.data = some text)
    : ∃ word : WordToken, word.token = token ∧ word.text = text := by
  unfold textAfterRelation? at found
  split at found
  · next raw value quoted data =>
      exact ⟨⟨token, by simp [Token.kind, data, TokenData.kind]⟩, rfl,
        by simpa [WordToken.text, data, TokenData.termValue?] using found⟩
  · next operator text data =>
      exact ⟨⟨token, by simp [Token.kind, data, TokenData.kind]⟩, rfl,
        by simpa [WordToken.text, data, TokenData.termValue?, TokenData.text] using found⟩
  · next name data =>
      exact ⟨⟨token, by simp [Token.kind, data, TokenData.kind]⟩, rfl,
        by simpa [WordToken.text, data, TokenData.termValue?, TokenData.text] using found⟩
  · next text data =>
      exact ⟨⟨token, by simp [Token.kind, data, TokenData.kind]⟩, rfl,
        by simpa [WordToken.text, data, TokenData.termValue?, TokenData.text] using found⟩
  · cases found

theorem qualifiedClause_eq_ok (index : TermToken) (relation : RelationToken) {tree : QueryTree}
    (found
      : qualifiedClause last index.value relation.relation index.offset tokens = .ok (tree, rest))
    : ∃ phrase : ClausePhrase,
        index.token :: relation.token :: tokens = phrase.tokens ++ rest
        ∧ tree = .search phrase.clause := by
  unfold qualifiedClause at found
  split at found
  · cases found
  · next read behind modified =>
      obtain ⟨phrases, rfl, rfl⟩ := modifiers_eq_ok modified
      split at found
      · cases found
      · next token others =>
          split at found
          · cases found
          · next term text =>
              obtain ⟨word, rfl, rfl⟩ := textAfterRelation?_eq_some text
              obtain ⟨rfl, rfl⟩ := Prod.mk.inj (Except.ok.inj found)
              refine ⟨.qualified index relation phrases word, by simp [ClausePhrase.tokens], ?_⟩
              rw [ClausePhrase.clause, TermToken.name_eq_decode]

/-- A clause that was read is that of a phrase, by its first tokens. -/
theorem clause_eq_ok {tree : QueryTree} (found : clause last tokens = .ok (tree, rest))
    : ∃ phrase : ClausePhrase,
        tokens = phrase.tokens ++ rest
        ∧ tree = .search phrase.clause := by
  unfold clause at found
  split at found
  · next raw index quoted offset symbol symbolOffset others =>
      exact qualifiedClause_eq_ok ⟨raw, index, quoted, offset⟩ ⟨.comparison symbol, symbolOffset⟩
        found
  · next raw index quoted offset name nameOffset others =>
      exact qualifiedClause_eq_ok ⟨raw, index, quoted, offset⟩ ⟨.named name, nameOffset⟩ found
  · next raw value quoted offset others _ _ =>
      obtain ⟨rfl, rfl⟩ := Prod.mk.inj (Except.ok.inj found)
      exact ⟨.bare ⟨raw, value, quoted, offset⟩, rfl, rfl⟩
  · cases found

-----------------------------------------------------------------------------------------
-- Operands and operators
-----------------------------------------------------------------------------------------

theorem operatorModifiers_eq_ok {operator : BooleanOperator} (word : String) (offset : Nat)
    {read : List Modifier} (found : operatorModifiers last operator tokens = .ok (read, rest))
    : ∃ phrase : OperatorPhrase,
        ⟨.operator operator word, offset⟩ :: tokens = phrase.tokens ++ rest
        ∧ phrase.operator = operator
        ∧ read = phrase.modifiers.map ModifierPhrase.modifier := by
  unfold operatorModifiers at found
  split at found
  · next prox =>
      obtain ⟨phrases, rfl, rfl⟩ := modifiers_eq_ok found
      exact ⟨⟨operator, word, offset, phrases, absurd prox⟩, rfl, rfl, rfl⟩
  · split at found
    · cases found
    · obtain ⟨rfl, rfl⟩ := Prod.mk.inj (Except.ok.inj found)
      exact ⟨⟨operator, word, offset, [], fun _ => rfl⟩, rfl, rfl, rfl⟩

/-- A reader of operands reads what has a derivation with so many open parentheses at most. -/
def ReadsOperands (nesting : Nat) (reader : TokenReader QueryTree) : Prop :=
  ∀ {tokens rest tree},
    reader.read tokens = .ok (tree, rest)
    → ∃ derivation : Operand,
      tokens = derivation.tokens ++ rest
      ∧ tree = derivation.tree
      ∧ derivation.nesting ≤ nesting

/-- What is joined to an operand has a derivation, by the recursion over the operators. -/
theorem operators_eq_ok {reader : TokenReader QueryTree} {nesting : Nat} {left tree : QueryTree}
    (sound : ReadsOperands nesting reader)
    (found : operators last reader left tokens = .ok (tree, rest))
    : ∃ derivation : Joined,
        tokens = derivation.tokens ++ rest
        ∧ tree = derivation.treeFrom left
        ∧ derivation.nesting ≤ nesting := by
  fun_induction operators last reader left tokens with
  | case1 => cases found
  | case2 => cases found
  | case3 left operator word offset others read afterModifiers modified right afterOperand operand
      ih =>
      obtain ⟨phrase, parts, rfl, rfl⟩ := operatorModifiers_eq_ok word offset modified
      obtain ⟨first, rfl, rfl, firstNesting⟩ := sound operand
      obtain ⟨later, rfl, rfl, laterNesting⟩ := ih found
      refine ⟨.more phrase first later, ?_, ?_, ?_⟩
      · simp [parts, Joined.tokens]
      · simp only [Joined.treeFrom]
      · simpa only [Joined.nesting] using Nat.max_le.mpr ⟨firstNesting, laterNesting⟩
  | case4 =>
      obtain ⟨rfl, rfl⟩ := Prod.mk.inj (Except.ok.inj found)
      exact ⟨.none, by simp [Joined.tokens], by simp only [Joined.treeFrom],
        by simp [Joined.nesting]⟩

theorem operands_eq_ok {reader : TokenReader QueryTree} {nesting : Nat} {tree : QueryTree}
    (sound : ReadsOperands nesting reader)
    (found : operands last reader tokens = .ok (tree, rest))
    : ∃ (first : Operand) (others : Joined),
        tokens = first.tokens ++ others.tokens ++ rest
        ∧ tree = others.treeFrom first.tree
        ∧ first.nesting ≤ nesting
        ∧ others.nesting ≤ nesting := by
  unfold operands at found
  split at found
  · cases found
  · next left behind operand =>
      obtain ⟨first, rfl, rfl, firstNesting⟩ := sound operand
      obtain ⟨others, rfl, rfl, othersNesting⟩ := operators_eq_ok sound found
      exact ⟨first, others, by simp, rfl, firstNesting, othersNesting⟩

theorem readsOperands_of_clause {nesting : Nat} {tree : QueryTree}
    (found : clause last tokens = .ok (tree, rest))
    : ∃ derivation : Operand,
        tokens = derivation.tokens ++ rest
        ∧ tree = derivation.tree
        ∧ derivation.nesting ≤ nesting := by
  obtain ⟨phrase, rfl, rfl⟩ := clause_eq_ok found
  exact ⟨.clause phrase, by simp only [Operand.tokens], by simp only [Operand.tree],
    by simp [Operand.nesting]⟩

/-- An operand that was read has a derivation, by induction on the parentheses that are left. -/
theorem readsOperands_operand (nesting : Nat) : ReadsOperands nesting (operand last nesting) := by
  induction nesting with
  | zero =>
      intro tokens rest tree found
      simp only [operand] at found
      split at found
      · cases found
      · exact readsOperands_of_clause found
  | succ nesting ih =>
      intro tokens rest tree found
      simp only [operand] at found
      split at found
      · next opening others =>
          obtain ⟨closing, inner⟩ := closed_eq_ok found
          obtain ⟨first, others, rfl, rfl, firstNesting, othersNesting⟩ := operands_eq_ok ih inner
          refine ⟨.group opening first others closing, ?_, ?_, ?_⟩
          · simp [Operand.tokens]
          · simp only [Operand.tree]
          · simpa only [Operand.nesting, Nat.add_le_add_iff_right] using
              Nat.max_le.mpr ⟨firstNesting, othersNesting⟩
      · exact readsOperands_of_clause found

-----------------------------------------------------------------------------------------
-- Queries
-----------------------------------------------------------------------------------------

/-- Sort keys that were read are those of phrases, by the recursion over the keys. -/
theorem sortKeys_eq_ok {keys : List SortKey} (found : sortKeys last tokens = .ok (keys, rest))
    : ∃ phrases : List KeyPhrase,
        tokens = phrases.flatMap KeyPhrase.tokens ++ rest
        ∧ keys = phrases.map KeyPhrase.key := by
  fun_induction sortKeys last tokens generalizing keys rest with
  | case1 => cases found
  | case2 raw index quoted offset others read behind modified ih =>
      obtain ⟨⟨laterKeys, laterRest⟩, later, same⟩ := map_eq_ok found
      obtain ⟨modifiers, rfl, rfl⟩ := modifiers_eq_ok modified
      obtain ⟨phrases, rfl, rfl⟩ := ih later
      obtain ⟨rfl, rfl⟩ := Prod.mk.inj same
      refine ⟨⟨⟨raw, index, quoted, offset⟩, modifiers⟩ :: phrases,
        by simp [KeyPhrase.tokens, TermToken.token], ?_⟩
      rw [List.map_cons, KeyPhrase.key, TermToken.name_eq_decode]
  | case3 =>
      obtain ⟨rfl, rfl⟩ := Prod.mk.inj (Except.ok.inj found)
      exact ⟨[], rfl, rfl⟩

theorem sortPart_eq_ok {sort : Option (List SortKey)}
    (found : sortPart last tokens = .ok (sort, rest))
    : ∃ phrase : Option SortPhrase,
        tokens = SortPhrase.tokens? phrase ++ rest
        ∧ sort = phrase.map fun part => part.keys.map KeyPhrase.key := by
  unfold sortPart at found
  split at found
  · next word offset others =>
      split at found
      · cases found
      · cases found
      · next keys behind some read =>
          obtain ⟨phrases, rfl, rfl⟩ := sortKeys_eq_ok read
          obtain ⟨rfl, rfl⟩ := Prod.mk.inj (Except.ok.inj found)
          have nonempty : phrases ≠ [] := by
            rintro rfl
            exact some rfl
          exact ⟨.some ⟨word, offset, phrases, nonempty⟩, rfl, rfl⟩
  · obtain ⟨rfl, rfl⟩ := Prod.mk.inj (Except.ok.inj found)
    exact ⟨none, rfl, rfl⟩

/-- A query that was read is derived from all of its tokens. -/
theorem query_eq_ok {result : CqlQuery} (found : query last tokens = .ok result)
    : ∃ derivation : Derivation,
        derivation.tokens = tokens
        ∧ derivation.nesting ≤ maxNesting
        ∧ derivation.query = result := by
  unfold query at found
  split at found
  · cases found
  · next root behind operands =>
      obtain ⟨first, others, rfl, rfl, firstNesting, othersNesting⟩ :=
        operands_eq_ok (readsOperands_operand maxNesting) operands
      split at found
      · cases found
      · next sort behind' part =>
          obtain ⟨phrase, rfl, rfl⟩ := sortPart_eq_ok part
          unfold ended at found
          split at found
          · split at found
            · obtain rfl := Except.ok.inj found
              exact ⟨⟨first, others, phrase⟩, by simp [Derivation.tokens],
                Nat.max_le.mpr ⟨firstNesting, othersNesting⟩, rfl⟩
            · cases found
          · cases found

end CqlGateway.Parser
