import CqlGateway.Query.Tree
import CqlGateway.Term.Escape

/-! The grammar of queries as derivations. A derivation is made of tokens and says which query they
make up, how deep its parentheses are nested, and nothing of how it is found.
-/

namespace CqlGateway.Grammar

-----------------------------------------------------------------------------------------
-- Terms and modifiers
-----------------------------------------------------------------------------------------

/-- The characters that a name is written for: behind a backslash a character stands for itself, and
the backslash in front of it for nothing.
-/
def unescaped : List Char → List Char
  | [] => []
  | '\\' :: character :: rest => character :: unescaped rest
  | character :: rest => character :: unescaped rest

/-- A value is decoded by dropping the backslash of every pair, by the recursion over its pieces. -/
theorem map_meant_pieces (text : List Char)
    : (Term.pieces text).map Term.Piece.meant = unescaped text := by
  fun_induction Term.pieces text with
  | case1 => rfl
  | case2 => rfl
  | case3 character rest ih => rw [List.map_cons, ih, unescaped, Term.Piece.meant]
  | case4 character rest noLast noEscape ih =>
      rw [List.map_cons, ih, unescaped, Term.Piece.meant]
      exact noEscape

/-- A token that is a term. -/
structure TermToken where
  raw : String
  value : String
  quoted : Bool
  offset : Nat

namespace TermToken

def token (term : TermToken) : Token :=
  ⟨.term term.raw term.value term.quoted, term.offset⟩

/-- The name of an index or a modifier that the term is. -/
def name (term : TermToken) : String :=
  String.ofList (unescaped term.value.toList)

/-- The grammar's names are those that terms are decoded to. -/
theorem name_eq_decode (term : TermToken) : term.name = Term.decode term.value := by
  rw [name, Term.decode, map_meant_pieces]

end TermToken

/-- A token that may stand for a term behind a relation: keywords may too. -/
structure WordToken where
  token : Token
  isWord : token.kind ∈ [.term, .operator, .relation, .sortBy]

/-- The value of a term, and the text of a keyword. -/
def WordToken.text (word : WordToken) : String :=
  word.token.data.termValue?.getD word.token.data.text

/-- A slash and a name, with or without a compared value. -/
structure ModifierPhrase where
  slash : Nat
  name : TermToken
  /-- The symbol, its offset and the value. -/
  comparison : Option (Comparison × Nat × TermToken)

namespace ModifierPhrase

def comparisonTokens : Option (Comparison × Nat × TermToken) → List Token
  | none => []
  | some (symbol, offset, value) => [⟨.comparison symbol, offset⟩, value.token]

def tokens (phrase : ModifierPhrase) : List Token :=
  ⟨.slash, phrase.slash⟩ :: phrase.name.token :: comparisonTokens phrase.comparison

/-- The modifier, which is found where its name is. -/
def modifier (phrase : ModifierPhrase) : Modifier :=
  {
    name := phrase.name.name
    comparison := phrase.comparison.map fun (symbol, _, value) => (symbol, value.value)
    offset := phrase.name.offset
  }

end ModifierPhrase

/-- The tokens of modifiers that stand one behind the other. -/
def modifierTokens (phrases : List ModifierPhrase) : List Token :=
  phrases.flatMap ModifierPhrase.tokens

-----------------------------------------------------------------------------------------
-- Clauses
-----------------------------------------------------------------------------------------

/-- A token that relates an index to a term. -/
structure RelationToken where
  relation : Relation
  offset : Nat

def RelationToken.token (relation : RelationToken) : Token :=
  match relation.relation with
  | .comparison symbol => ⟨.comparison symbol, relation.offset⟩
  | .named name => ⟨.relation name, relation.offset⟩

inductive ClausePhrase where
  | bare (term : TermToken)
  | qualified (index : TermToken) (relation : RelationToken) (modifiers : List ModifierPhrase)
    (term : WordToken)

namespace ClausePhrase

def tokens : ClausePhrase → List Token
  | .bare term => [term.token]
  | .qualified index relation modifiers term =>
      index.token :: relation.token :: (modifierTokens modifiers ++ [term.token])

/-- The clause, which is found where its first token is. A term on its own is compared by `=` and
has no index.
-/
def clause : ClausePhrase → SearchClause
  | .bare term => {
      index := none
      relation := .comparison .equal
      modifiers := []
      term := term.value
      offset := term.offset
    }
  | .qualified index relation modifiers term => {
      index := some index.name
      relation := relation.relation
      modifiers := modifiers.map ModifierPhrase.modifier
      term := term.text
      offset := index.offset
    }

end ClausePhrase

-----------------------------------------------------------------------------------------
-- Operands and operators
-----------------------------------------------------------------------------------------

/-- An operator with its modifiers, which only `prox` may have. -/
structure OperatorPhrase where
  operator : BooleanOperator
  word : String
  offset : Nat
  modifiers : List ModifierPhrase
  bare_unless_prox : operator ≠ .prox → modifiers = []

def OperatorPhrase.tokens (phrase : OperatorPhrase) : List Token :=
  ⟨.operator phrase.operator phrase.word, phrase.offset⟩ :: modifierTokens phrase.modifiers

mutual

/-- A clause, or operands in parentheses. -/
inductive Operand where
  | clause (clause : ClausePhrase)
  | group (opening : Nat) (first : Operand) (others : Joined) (closing : Nat)

/-- The operators and operands behind a first operand. -/
inductive Joined where
  | none
  | more (operator : OperatorPhrase) (right : Operand) (others : Joined)

end

mutual

def Operand.tokens : Operand → List Token
  | .clause clause => clause.tokens
  | .group opening first others closing =>
      ⟨.openParen, opening⟩ :: (first.tokens ++ others.tokens ++ [⟨.closeParen, closing⟩])

def Joined.tokens : Joined → List Token
  | .none => []
  | .more operator right others => operator.tokens ++ right.tokens ++ others.tokens

end

mutual

/-- The tree of an operand. Parentheses leave no trace in it. -/
def Operand.tree : Operand → QueryTree
  | .clause clause => .search clause.clause
  | .group _ first others _ => others.treeFrom first.tree

/-- The tree of operands that are joined to one in front of them, from left to right. -/
def Joined.treeFrom (left : QueryTree) : Joined → QueryTree
  | .none => left
  | .more operator right others =>
      others.treeFrom (.boolean operator.operator
        (operator.modifiers.map ModifierPhrase.modifier) left right.tree)

end

mutual

/-- How many parentheses are open at most at once. -/
def Operand.nesting : Operand → Nat
  | .clause _ => 0
  | .group _ first others _ => max first.nesting others.nesting + 1

def Joined.nesting : Joined → Nat
  | .none => 0
  | .more _ right others => max right.nesting others.nesting

end

-----------------------------------------------------------------------------------------
-- Queries
-----------------------------------------------------------------------------------------

structure KeyPhrase where
  index : TermToken
  modifiers : List ModifierPhrase

namespace KeyPhrase

def tokens (phrase : KeyPhrase) : List Token :=
  phrase.index.token :: modifierTokens phrase.modifiers

def key (phrase : KeyPhrase) : SortKey :=
  {
    index := phrase.index.name
    modifiers := phrase.modifiers.map ModifierPhrase.modifier
  }

end KeyPhrase

/-- The sort keyword and at least one key. -/
structure SortPhrase where
  word : String
  offset : Nat
  keys : List KeyPhrase
  some_keys : keys ≠ []

namespace SortPhrase

def tokens (phrase : SortPhrase) : List Token :=
  ⟨.sortBy phrase.word, phrase.offset⟩ :: phrase.keys.flatMap KeyPhrase.tokens

/-- The tokens of a sort part that need not be there. -/
def tokens? : Option SortPhrase → List Token
  | none => []
  | some phrase => phrase.tokens

end SortPhrase

/-- How a query is made up of tokens. -/
structure Derivation where
  first : Operand
  others : Joined
  sort : Option SortPhrase

namespace Derivation

def tokens (derivation : Derivation) : List Token :=
  derivation.first.tokens ++ derivation.others.tokens ++ SortPhrase.tokens? derivation.sort

/-- The query that is derived. -/
def query (derivation : Derivation) : CqlQuery :=
  {
    root := derivation.others.treeFrom derivation.first.tree
    sort := derivation.sort.map fun phrase => phrase.keys.map KeyPhrase.key
  }

/-- How many parentheses are open at most at once. -/
def nesting (derivation : Derivation) : Nat :=
  max derivation.first.nesting derivation.others.nesting

end Derivation

-----------------------------------------------------------------------------------------
-- What may come next
-----------------------------------------------------------------------------------------

variable {tokens rest : List Token}

/-- No token of these kinds comes next. -/
def Avoids (kinds : List TokenKind) (tokens : List Token) : Prop :=
  ∀ token ∈ tokens.head?, token.kind ∉ kinds

@[simp]
theorem avoids_nil (kinds : List TokenKind) : Avoids kinds [] := by
  simp [Avoids]

@[simp]
theorem avoids_cons {kinds : List TokenKind} {token : Token}
    : Avoids kinds (token :: tokens) ↔ token.kind ∉ kinds := by
  simp [Avoids]

theorem Avoids.mono {kinds fewer : List TokenKind} (avoids : Avoids kinds tokens)
    (included : fewer ⊆ kinds)
    : Avoids fewer tokens :=
  fun token next member => avoids token next (included member)

/-- Modifiers begin with a slash. -/
theorem avoids_modifierTokens {kinds : List TokenKind} (noSlash : .slash ∉ kinds)
    (phrases : List ModifierPhrase) (stops : Avoids kinds rest)
    : Avoids kinds (modifierTokens phrases ++ rest) := by
  cases phrases with
  | nil => exact stops
  | cons phrase others => simpa [modifierTokens, ModifierPhrase.tokens, Token.kind, TokenData.kind]

theorem WordToken.kind_notMem {kinds : List TokenKind} (word : WordToken)
    (none : ∀ kind ∈ [TokenKind.term, .operator, .relation, .sortBy], kind ∉ kinds)
    : word.token.kind ∉ kinds :=
  none word.token.kind word.isWord

theorem ClausePhrase.head (phrase : ClausePhrase)
    : ∃ (term : TermToken) (others : List Token), phrase.tokens = term.token :: others := by
  cases phrase with
  | bare term => exact ⟨term, [], rfl⟩
  | qualified index => exact ⟨index, _, rfl⟩

/-- An operand begins with a term or a parenthesis. -/
theorem avoids_operand {kinds : List TokenKind}
    (none : ∀ kind ∈ [TokenKind.term, .openParen], kind ∉ kinds) (derivation : Operand)
    : Avoids kinds (derivation.tokens ++ rest) := by
  cases derivation with
  | clause phrase =>
      obtain ⟨term, others, parts⟩ := phrase.head
      simp only [Operand.tokens, parts, List.cons_append, avoids_cons]
      exact none .term (by simp)
  | group =>
      simp only [Operand.tokens, List.cons_append, avoids_cons]
      exact none .openParen (by simp)

/-- What is joined to an operand begins with an operator. -/
theorem avoids_joined {kinds : List TokenKind} (none : .operator ∉ kinds) (derivation : Joined)
    (stops : Avoids kinds rest)
    : Avoids kinds (derivation.tokens ++ rest) := by
  cases derivation with
  | none => simpa only [Joined.tokens, List.nil_append] using stops
  | more => simpa [Joined.tokens, OperatorPhrase.tokens, Token.kind, TokenData.kind] using none

/-- Sort keys begin with a term. -/
theorem avoids_keyTokens {kinds : List TokenKind} (noTerm : .term ∉ kinds)
    (phrases : List KeyPhrase)
    : Avoids kinds (phrases.flatMap KeyPhrase.tokens) := by
  cases phrases with
  | nil => exact avoids_nil kinds
  | cons phrase others =>
      simpa [KeyPhrase.tokens, TermToken.token, Token.kind, TokenData.kind] using noTerm

theorem avoids_sort {kinds : List TokenKind} (noKeyword : .sortBy ∉ kinds)
    (phrase : Option SortPhrase)
    : Avoids kinds (SortPhrase.tokens? phrase) := by
  cases phrase with
  | none => exact avoids_nil kinds
  | some part =>
      simpa [SortPhrase.tokens?, SortPhrase.tokens, Token.kind, TokenData.kind] using noKeyword

end CqlGateway.Grammar
