import CqlGateway.Proofs.Query.Grammar
import CqlGateway.Query.Parse

/-! The parser accepts the tokens of every derivation, and stops behind them if what comes next could
not have been a part of it.
-/

namespace CqlGateway.Parser

open Grammar

variable {last : Token} {tokens rest : List Token}

-----------------------------------------------------------------------------------------
-- Modifiers and clauses
-----------------------------------------------------------------------------------------

theorem modifiers_of_avoids (stops : Avoids [.slash] tokens)
    : modifiers last tokens = .ok ([], tokens) := by
  cases tokens with
  | nil => rfl
  | cons token others =>
      obtain ⟨data, offset⟩ := token
      cases data with
      | slash => simp [Token.kind, TokenData.kind] at stops
      | _ => rfl

/-- A name without a comparison behind it is a modifier on its own. -/
theorem modifiers_name (slash : Nat) (name : TermToken) (stops : Avoids [.comparison] tokens)
    : modifiers last (⟨.slash, slash⟩ :: name.token :: tokens)
      = consModifier name.value none name.offset <$> modifiers last tokens := by
  cases tokens with
  | nil => rfl
  | cons token others =>
      obtain ⟨data, offset⟩ := token
      cases data with
      | comparison => simp [Token.kind, TokenData.kind] at stops
      | _ => rfl

/-- The modifiers of phrases are read, by list induction. -/
theorem modifiers_append (phrases : List ModifierPhrase)
    (stops : Avoids [.slash, .comparison] rest)
    : modifiers last (modifierTokens phrases ++ rest)
      = .ok (phrases.map ModifierPhrase.modifier, rest) := by
  induction phrases with
  | nil => exact modifiers_of_avoids (stops.mono (by simp))
  | cons phrase others ih =>
      obtain ⟨slash, name, comparison⟩ := phrase
      cases comparison with
      | none =>
          have alone := avoids_modifierTokens (by simp) others
            (stops.mono (by simp : [TokenKind.comparison] ⊆ _))
          have step := @modifiers_name last _ slash name alone
          rw [ih] at step
          rw [List.map_cons, ModifierPhrase.modifier, TermToken.name_eq_decode]
          exact step
      | some compared =>
          obtain ⟨symbol, offset, value⟩ := compared
          have step : modifiers last (modifierTokens (⟨slash, name, some (symbol, offset, value)⟩
              :: others) ++ rest)
              = consModifier name.value (some (symbol, value.value)) name.offset
                <$> modifiers last (modifierTokens others ++ rest) := by
            rfl
          rw [step, ih, List.map_cons, ModifierPhrase.modifier, TermToken.name_eq_decode]
          rfl

/-- Behind a relation, a word is a term of its text. -/
theorem textAfterRelation?_word (word : WordToken)
    : textAfterRelation? word.token.data = some word.text := by
  obtain ⟨⟨data, offset⟩, isWord⟩ := word
  cases data with
  | term | operator | relation | sortBy => rfl
  | _ => simp [Token.kind, TokenData.kind] at isWord

theorem qualifiedClause_append (index : TermToken) (relation : RelationToken)
    (phrases : List ModifierPhrase) (word : WordToken)
    : qualifiedClause last index.value relation.relation index.offset
        (modifierTokens phrases ++ word.token :: rest)
      = .ok (.search (ClausePhrase.qualified index relation phrases word).clause, rest) := by
  have stops : Avoids [.slash, .comparison] (word.token :: rest) :=
    avoids_cons.mpr (word.kind_notMem (by simp))
  simp only [qualifiedClause, modifiers_append phrases stops, textAfterRelation?_word,
    ClausePhrase.clause, TermToken.name_eq_decode]

theorem clause_bare (term : TermToken) (stops : Avoids [.comparison, .relation] rest)
    : clause last (term.token :: rest)
      = .ok (.search (ClausePhrase.bare term).clause, rest) := by
  cases rest with
  | nil => rfl
  | cons token others =>
      obtain ⟨data, offset⟩ := token
      cases data with
      | comparison | relation => simp [Token.kind, TokenData.kind] at stops
      | _ => rfl

/-- A clause is read, and a term on its own if no relation comes next. -/
theorem clause_append (phrase : ClausePhrase) (stops : Avoids [.comparison, .relation] rest)
    : clause last (phrase.tokens ++ rest) = .ok (.search phrase.clause, rest) := by
  cases phrase with
  | bare term => exact clause_bare term stops
  | qualified index relation phrases word =>
      have read := @qualifiedClause_append last rest index relation phrases word
      obtain ⟨relation, offset⟩ := relation
      have parts : (modifierTokens phrases ++ [word.token]) ++ rest
          = modifierTokens phrases ++ word.token :: rest := by
        simp
      simp only [ClausePhrase.tokens, List.cons_append, parts]
      cases relation with
      | comparison | named => exact read

-----------------------------------------------------------------------------------------
-- Operands and operators
-----------------------------------------------------------------------------------------

theorem operatorModifiers_append (phrase : OperatorPhrase)
    (stops : Avoids [.slash, .comparison] rest)
    : operatorModifiers last phrase.operator (modifierTokens phrase.modifiers ++ rest)
      = .ok (phrase.modifiers.map ModifierPhrase.modifier, rest) := by
  unfold operatorModifiers
  split
  · exact modifiers_append phrase.modifiers stops
  · next other =>
      rw [phrase.bare_unless_prox other]
      cases rest with
      | nil => rfl
      | cons token others =>
          obtain ⟨data, offset⟩ := token
          cases data with
          | slash => simp [Token.kind, TokenData.kind] at stops
          | _ => rfl

theorem operators_of_avoids {reader : TokenReader QueryTree} {left : QueryTree}
    (stops : Avoids [.operator] tokens)
    : operators last reader left tokens = .ok (left, tokens) := by
  cases tokens with
  | nil => rw [operators]; simp
  | cons token others =>
      obtain ⟨data, offset⟩ := token
      cases data with
      | operator => simp [Token.kind, TokenData.kind] at stops
      | _ => rw [operators]; simp

/-- An operator and its operand are read as one step of the recursion. -/
theorem operators_more {reader : TokenReader QueryTree} {left right : QueryTree}
    (phrase : OperatorPhrase) (stops : Avoids [.slash, .comparison] tokens)
    (read : reader.read tokens = .ok (right, rest))
    : operators last reader left (phrase.tokens ++ tokens)
      = operators last reader
          (.boolean phrase.operator (phrase.modifiers.map ModifierPhrase.modifier) left right)
          rest := by
  have modified := @operatorModifiers_append last tokens phrase stops
  rw [OperatorPhrase.tokens, List.cons_append, operators]
  split
  · next failed =>
      rw [modified] at failed
      cases failed
  · next found =>
      rw [modified] at found
      obtain ⟨rfl, rfl⟩ := Prod.mk.inj (Except.ok.inj found)
      split
      · next failed =>
          rw [read] at failed
          cases failed
      · next found =>
          rw [read] at found
          obtain ⟨rfl, rfl⟩ := Prod.mk.inj (Except.ok.inj found)
          rfl

/-- A clause is an operand, however many parentheses are left. -/
theorem operand_read_clause (nesting : Nat) (phrase : ClausePhrase)
    : (operand last nesting).read (phrase.tokens ++ rest) = clause last (phrase.tokens ++ rest) := by
  obtain ⟨term, others, parts⟩ := phrase.head
  rw [parts]
  cases nesting with
  | zero | succ => rfl

/-- A first operand and what is joined to it are read one after the other. -/
theorem operands_eq_of_read {reader : TokenReader QueryTree} {left tree : QueryTree}
    {middle : List Token} (readFirst : reader.read tokens = .ok (left, middle))
    (readOthers : operators last reader left middle = .ok (tree, rest))
    : operands last reader tokens = .ok (tree, rest) := by
  simp only [operands, readFirst, readOthers]

mutual

/-- An operand is read if it has no more parentheses than are left, by induction on it. -/
theorem operand_append {rest : List Token} (nesting : Nat) (derivation : Operand)
    (bound : derivation.nesting ≤ nesting) (stops : Avoids [.comparison, .relation] rest)
    : (operand last nesting).read (derivation.tokens ++ rest) = .ok (derivation.tree, rest) :=
  match derivation with
  | .clause phrase => by
      simp only [Operand.tokens, Operand.tree]
      rw [operand_read_clause]
      exact clause_append phrase stops
  | .group opening first others closing => by
      cases nesting with
      | zero => simp [Operand.nesting] at bound
      | succ nesting =>
          rw [Operand.nesting, Nat.add_le_add_iff_right, Nat.max_le] at bound
          have shut : Avoids [.comparison, .relation, .operator]
              (⟨.closeParen, closing⟩ :: rest) := by
            simp [Token.kind, TokenData.kind]
          have readFirst := operand_append nesting first bound.1
            (avoids_joined (by simp) others (shut.mono (by simp)))
          have readOthers := operators_append nesting first.tree others bound.2 shut
          have inner := operands_eq_of_read readFirst readOthers
          have parts : (Operand.group opening first others closing).tokens ++ rest
              = ⟨.openParen, opening⟩
                :: (first.tokens ++ (others.tokens ++ ⟨.closeParen, closing⟩ :: rest)) := by
            simp [Operand.tokens]
          rw [parts]
          simp only [operand, inner, closed, Operand.tree]

/-- What is joined to an operand is read, by induction on it. -/
theorem operators_append {rest : List Token} (nesting : Nat) (left : QueryTree)
    (derivation : Joined) (bound : derivation.nesting ≤ nesting)
    (stops : Avoids [.comparison, .relation, .operator] rest)
    : operators last (operand last nesting) left (derivation.tokens ++ rest)
      = .ok (derivation.treeFrom left, rest) :=
  match derivation with
  | .none => by
      simp only [Joined.tokens, List.nil_append, Joined.treeFrom]
      exact operators_of_avoids (stops.mono (by simp))
  | .more phrase right others => by
      rw [Joined.nesting, Nat.max_le] at bound
      have read := operand_append nesting right bound.1
        (avoids_joined (by simp) others (stops.mono (by simp)))
      simp only [Joined.tokens, List.append_assoc, Joined.treeFrom]
      rw [operators_more phrase (avoids_operand (by simp) right) read]
      exact operators_append nesting _ others bound.2 stops

end

-----------------------------------------------------------------------------------------
-- Queries
-----------------------------------------------------------------------------------------

theorem sortKeys_of_avoids (stops : Avoids [.term] tokens)
    : sortKeys last tokens = .ok ([], tokens) := by
  cases tokens with
  | nil => rw [sortKeys]; simp
  | cons token others =>
      obtain ⟨data, offset⟩ := token
      cases data with
      | term => simp [Token.kind, TokenData.kind] at stops
      | _ => rw [sortKeys]; simp

/-- The keys of phrases are read up to the end, by list induction. -/
theorem sortKeys_tokens (phrases : List KeyPhrase)
    : sortKeys last (phrases.flatMap KeyPhrase.tokens) = .ok (phrases.map KeyPhrase.key, []) := by
  induction phrases with
  | nil => exact sortKeys_of_avoids (avoids_nil _)
  | cons phrase others ih =>
      have modified := @modifiers_append last _ phrase.modifiers
        (avoids_keyTokens (by simp) others)
      rw [List.flatMap_cons, KeyPhrase.tokens, List.cons_append, TermToken.token, sortKeys]
      split
      · next failed =>
          rw [modified] at failed
          cases failed
      · next found =>
          rw [modified] at found
          obtain ⟨rfl, rfl⟩ := Prod.mk.inj (Except.ok.inj found)
          rw [ih, List.map_cons, KeyPhrase.key, TermToken.name_eq_decode]
          rfl

theorem sortPart_tokens (phrase : Option SortPhrase)
    : sortPart last (SortPhrase.tokens? phrase)
      = .ok (phrase.map fun part => part.keys.map KeyPhrase.key, []) := by
  cases phrase with
  | none => rfl
  | some part =>
      obtain ⟨word, offset, keys, nonempty⟩ := part
      cases keys with
      | nil => exact absurd rfl nonempty
      | cons first others =>
          simp only [SortPhrase.tokens?, SortPhrase.tokens, sortPart, sortKeys_tokens,
            List.map_cons, Option.map_some]

/-- A derivation without too many parentheses is read as the query that it derives. -/
theorem query_tokens (derivation : Derivation) (bound : derivation.nesting ≤ maxNesting)
    (ends : last.kind = .endOfInput)
    : query last derivation.tokens = .ok derivation.query := by
  obtain ⟨first, others, sort⟩ := derivation
  obtain ⟨firstBound, othersBound⟩ := Nat.max_le.mp bound
  have readFirst := @operand_append last _ maxNesting first firstBound
    (avoids_joined (by simp) others (avoids_sort (by simp) sort))
  have readOthers := @operators_append last _ maxNesting first.tree others othersBound
    (avoids_sort (by simp) sort)
  have read := operands_eq_of_read readFirst readOthers
  simp only [query, Derivation.tokens, List.append_assoc, read, sortPart_tokens, ended,
    if_pos ends, Derivation.query]

end CqlGateway.Parser
