import CqlGateway.Query.Scan
import CqlGateway.Query.TokenCursor
import CqlGateway.Query.Tree
import CqlGateway.Term.Escape

/-! Reads a query from its tokens.

    query    := operands [sortby key+] end
    operands := operand (operator modifiers operand)*
    operand  := '(' operands ')' | clause
    clause   := [term (comparison | relation) modifiers] term
    modifiers := ('/' term [comparison term])*
    key      := term modifiers

All operators bind equally and to the left; only `prox` takes modifiers. Behind a relation a keyword
is a term.
-/

namespace CqlGateway

/-- What should have come where something else was found. -/
inductive Expectation where
  | searchTerm
  | searchTermAfterRelation
  | closeParen
  | modifierName
  | modifierValue
  | sortKey
  | endOfQuery
deriving DecidableEq, Repr

def Expectation.label : Expectation → String
  | .searchTerm => "search term"
  | .searchTermAfterRelation => "search term after relation"
  | .closeParen => "')'"
  | .modifierName => "modifier name after '/'"
  | .modifierValue => "modifier value"
  | .sortKey => "sort key after 'sortby'"
  | .endOfQuery => "end of query"

inductive ParseFault where
  | noTokens
  | emptyQuery
  | nestedTooDeeply
  | modifiersOn (operator : BooleanOperator)
  | unexpected (expected : Expectation) (found : TokenData)
deriving DecidableEq, Repr

/-- Why tokens are no query, and the offset of the token where this shows. -/
structure ParseError where
  offset : Nat
  fault : ParseFault
deriving DecidableEq, Repr

/-- The error that something else was expected where a token stands. -/
def ParseError.expecting (expected : Expectation) (found : Token) : ParseError :=
  {
    offset := found.offset
    fault := .unexpected expected found.data
  }

/-- Parentheses may be nested so many times. -/
def maxNesting : Nat := 256

/-- What reading some tokens gives: a value and the tokens behind it. -/
abbrev Reading (α : Type) := α × List Token

/-- Reads a value off the front of tokens, and at least one token with it. -/
structure TokenReader (α : Type) where
  read : List Token → Except ParseError (Reading α)
  shortens : ∀ {tokens value rest}, read tokens = .ok (value, rest) → rest.length < tokens.length

namespace Parser

/-- The next token. `last` stands behind all others. -/
def next (last : Token) (tokens : List Token) : Token :=
  tokens.headD last

/-- The error that something else was expected next. -/
def unexpected (last : Token) (expected : Expectation) (tokens : List Token) : ParseError :=
  .expecting expected (next last tokens)

/-- Puts a modifier in front of the others that were read. -/
def consModifier (name : String) (comparison : Option (Comparison × String)) (offset : Nat)
    (reading : Reading (List Modifier))
    : Reading (List Modifier) :=
  (
    {
      name := Term.decode name
      comparison := comparison
      offset := offset
    } :: reading.1,
    reading.2
  )

/-- The modifiers that stand next, if any. -/
def modifiers (last : Token) (tokens : List Token) : Except ParseError (Reading (List Modifier)) :=
  match tokens with
  | ⟨.slash, _⟩ :: ⟨.term _ name _, offset⟩ :: ⟨.comparison symbol, _⟩ :: ⟨.term _ value _, _⟩
      :: rest =>
      consModifier name (some (symbol, value)) offset <$> modifiers last rest
  | ⟨.slash, _⟩ :: ⟨.term _ _ _, _⟩ :: ⟨.comparison _, _⟩ :: rest =>
      .error (unexpected last .modifierValue rest)
  | ⟨.slash, _⟩ :: ⟨.term _ name _, offset⟩ :: rest =>
      consModifier name none offset <$> modifiers last rest
  | ⟨.slash, _⟩ :: rest => .error (unexpected last .modifierName rest)
  | _ => .ok ([], tokens)

theorem map_eq_ok {α β : Type} {f : α → β} {outcome : Except ParseError α} {value : β}
    (h : f <$> outcome = .ok value)
    : ∃ read, outcome = .ok read ∧ f read = value := by
  cases outcome with
  | error => simp [Functor.map, Except.map] at h
  | ok read => exact ⟨read, rfl, by simpa [Functor.map, Except.map] using h⟩

/-- Modifiers leave no more tokens than there were. -/
theorem modifiers_length {last : Token} {tokens rest : List Token} {read : List Modifier}
    (h : modifiers last tokens = .ok (read, rest))
    : rest.length ≤ tokens.length := by
  fun_induction modifiers last tokens generalizing read rest
  case case1 ih =>
    obtain ⟨⟨others, behind⟩, found, eq⟩ := map_eq_ok h
    have := ih found
    simp only [consModifier, Prod.mk.injEq] at eq
    simp only [List.length_cons, ← eq.2]
    omega
  case case2 => simp at h
  case case3 ih =>
    obtain ⟨⟨others, behind⟩, found, eq⟩ := map_eq_ok h
    have := ih found
    simp only [consModifier, Prod.mk.injEq] at eq
    simp only [List.length_cons, ← eq.2]
    omega
  case case4 => simp at h
  case case5 => simp_all

/-- The text that a token gives where a term stands behind a relation; keywords count with their
words.
-/
def textAfterRelation? : TokenData → Option String
  | .term _ value _ => some value
  | .operator _ word => some word
  | .relation name => some name
  | .sortBy word => some word
  | _ => none

/-- The rest of a clause behind its index and relation. -/
def qualifiedClause (last : Token) (index : String) (relation : Relation) (offset : Nat)
    (tokens : List Token)
    : Except ParseError (Reading QueryTree) :=
  match modifiers last tokens with
  | .error error => .error error
  | .ok (read, rest) =>
      match rest with
      | [] => .error (unexpected last .searchTermAfterRelation [])
      | token :: behind =>
          match textAfterRelation? token.data with
          | none => .error (unexpected last .searchTermAfterRelation rest)
          | some term =>
              .ok (
                .search {
                  index := some (Term.decode index)
                  relation := relation
                  modifiers := read
                  term := term
                  offset := offset
                },
                behind
              )

/-- A clause: an index, a relation and a term, or a term on its own. -/
def clause (last : Token) (tokens : List Token) : Except ParseError (Reading QueryTree) :=
  match tokens with
  | ⟨.term _ index _, offset⟩ :: ⟨.comparison symbol, _⟩ :: rest =>
      qualifiedClause last index (.comparison symbol) offset rest
  | ⟨.term _ index _, offset⟩ :: ⟨.relation name, _⟩ :: rest =>
      qualifiedClause last index (.named name) offset rest
  | ⟨.term _ value _, offset⟩ :: rest => .ok (.search (.bare value offset), rest)
  | _ => .error (unexpected last .searchTerm tokens)

theorem qualifiedClause_length {last : Token} {index : String} {relation : Relation} {offset : Nat}
    {tokens rest : List Token} {tree : QueryTree}
    (h : qualifiedClause last index relation offset tokens = .ok (tree, rest))
    : rest.length < tokens.length := by
  unfold qualifiedClause at h
  split at h
  · simp at h
  · next found =>
      have := modifiers_length found
      split at h
      · simp at h
      · split at h
        · simp at h
        · simp only [Except.ok.injEq, Prod.mk.injEq] at h
          simp only [List.length_cons, h.2] at this
          omega

theorem clause_length {last : Token} {tokens rest : List Token} {tree : QueryTree}
    (h : clause last tokens = .ok (tree, rest))
    : rest.length < tokens.length := by
  revert h
  fun_cases clause last tokens with
  | case1 | case2 =>
      intro h
      have := qualifiedClause_length h
      simp only [List.length_cons]
      omega
  | case3 =>
      intro h
      obtain ⟨-, rfl⟩ := Prod.mk.inj (Except.ok.inj h)
      exact Nat.lt_succ_self _
  | case4 =>
      intro h
      cases h

/-- What may stand between an operator and its right operand: modifiers behind `prox`, nothing
behind others.
-/
def operatorModifiers (last : Token) (operator : BooleanOperator) (tokens : List Token)
    : Except ParseError (Reading (List Modifier)) :=
  if operator = .prox then
    modifiers last tokens
  else
    match tokens with
    | ⟨.slash, offset⟩ :: _ => .error ⟨offset, .modifiersOn operator⟩
    | _ => .ok ([], tokens)

theorem operatorModifiers_length {last : Token} {operator : BooleanOperator}
    {tokens rest : List Token} {read : List Modifier}
    (h : operatorModifiers last operator tokens = .ok (read, rest))
    : rest.length ≤ tokens.length := by
  unfold operatorModifiers at h
  split at h
  · exact modifiers_length h
  · split at h
    · simp at h
    · simp_all

/-- The operators and operands behind a first operand, joined to it from left to right. -/
def operators (last : Token) (operand : TokenReader QueryTree) (left : QueryTree)
    (tokens : List Token)
    : Except ParseError (Reading QueryTree) :=
  match tokens with
  | ⟨.operator operator _, _⟩ :: rest =>
      match _modified : operatorModifiers last operator rest with
      | .error error => .error error
      | .ok (read, afterModifiers) =>
          match _found : operand.read afterModifiers with
          | .error error => .error error
          | .ok (right, afterOperand) =>
              operators last operand (.boolean operator read left right) afterOperand
  | _ => .ok (left, tokens)
termination_by tokens.length
decreasing_by
  have := operatorModifiers_length _modified
  have := operand.shortens _found
  simp only [List.length_cons]
  omega

theorem operators_length {last : Token} {operand : TokenReader QueryTree} {left tree : QueryTree}
    {tokens rest : List Token}
    (h : operators last operand left tokens = .ok (tree, rest))
    : rest.length ≤ tokens.length := by
  fun_induction operators last operand left tokens with
  | case1 => simp at h
  | case2 => simp at h
  | case3 _ _ _ _ tail _ _ modified _ _ found ih =>
      have := operatorModifiers_length modified
      have := operand.shortens found
      have := ih h
      simp only [List.length_cons]
      omega
  | case4 => simp_all

/-- Operands joined by operators. -/
def operands (last : Token) (operand : TokenReader QueryTree) (tokens : List Token)
    : Except ParseError (Reading QueryTree) :=
  match operand.read tokens with
  | .error error => .error error
  | .ok (left, rest) => operators last operand left rest

theorem operands_length {last : Token} {operand : TokenReader QueryTree} {tree : QueryTree}
    {tokens rest : List Token}
    (h : operands last operand tokens = .ok (tree, rest))
    : rest.length < tokens.length := by
  unfold operands at h
  split at h
  · simp at h
  · next found =>
      have := operand.shortens found
      have := operators_length h
      omega

/-- What stands behind an opening parenthesis, up to the closing one. -/
def closed (last : Token) (outcome : Except ParseError (Reading QueryTree))
    : Except ParseError (Reading QueryTree) :=
  match outcome with
  | .error error => .error error
  | .ok (tree, ⟨.closeParen, _⟩ :: rest) => .ok (tree, rest)
  | .ok (_, rest) => .error (unexpected last .closeParen rest)

theorem closed_eq_ok {last : Token} {outcome : Except ParseError (Reading QueryTree)}
    {tree : QueryTree} {rest : List Token}
    (h : closed last outcome = .ok (tree, rest))
    : ∃ offset, outcome = .ok (tree, ⟨.closeParen, offset⟩ :: rest) := by
  unfold closed at h
  split at h
  · simp at h
  · next offset _ =>
      simp only [Except.ok.injEq, Prod.mk.injEq] at h
      exact ⟨offset, by rw [h.1, h.2]⟩
  · simp at h

/-- An operand inside so many further parentheses. -/
def operand (last : Token) : (nesting : Nat) → TokenReader QueryTree
  | 0 => {
      read := fun tokens =>
        match tokens with
        | ⟨.openParen, offset⟩ :: _ => .error ⟨offset, .nestedTooDeeply⟩
        | _ => clause last tokens
      shortens := by
        intro tokens tree rest h
        split at h
        · simp at h
        · exact clause_length h
    }
  | nesting + 1 => {
      read := fun tokens =>
        match tokens with
        | ⟨.openParen, _⟩ :: rest => closed last (operands last (operand last nesting) rest)
        | _ => clause last tokens
      shortens := by
        intro tokens tree rest h
        split at h
        · obtain ⟨_, found⟩ := closed_eq_ok h
          have := operands_length found
          simp only [List.length_cons] at this ⊢
          omega
        · exact clause_length h
    }

/-- The sort keys that stand next, if any. -/
def sortKeys (last : Token) (tokens : List Token) : Except ParseError (Reading (List SortKey)) :=
  match tokens with
  | ⟨.term _ index _, _⟩ :: rest =>
      match _found : modifiers last rest with
      | .error error => .error error
      | .ok (read, behind) =>
          (fun others => (⟨Term.decode index, read⟩ :: others.1, others.2)) <$> sortKeys last behind
  | _ => .ok ([], tokens)
termination_by tokens.length
decreasing_by
  have := modifiers_length _found
  simp only [List.length_cons]
  omega

/-- The sort part, if there is one. It has at least one key. -/
def sortPart (last : Token) (tokens : List Token)
    : Except ParseError (Reading (Option (List SortKey))) :=
  match tokens with
  | ⟨.sortBy _, _⟩ :: rest =>
      match sortKeys last rest with
      | .error error => .error error
      | .ok ([], behind) => .error (unexpected last .sortKey behind)
      | .ok (keys, behind) => .ok (some keys, behind)
  | _ => .ok (none, tokens)

/-- Nothing but the end may be left. -/
def ended (last : Token) (query : CqlQuery) (tokens : List Token) : Except ParseError CqlQuery :=
  match tokens with
  | [] => if last.kind = .endOfInput then .ok query else .error (.expecting .endOfQuery last)
  | token :: _ => .error (.expecting .endOfQuery token)

/-- The query that the tokens in front of `last` make up. -/
def query (last : Token) (tokens : List Token) : Except ParseError CqlQuery :=
  match operands last (operand last maxNesting) tokens with
  | .error error => .error error
  | .ok (root, rest) =>
      match sortPart last rest with
      | .error error => .error error
      | .ok (sort, behind) => ended last ⟨root, sort⟩ behind

end Parser

/-- The query that tokens make up. They are read up to the first end. Tokens without an end are read
as if the last one were repeated for ever; so many repetitions as are written out here, one more
than parentheses may be nested, are always refused.
-/
def CqlQuery.ofTokens (tokens : List Token) : Except ParseError CqlQuery :=
  let body := tokens.takeWhile (·.kind ≠ .endOfInput)
  match tokens.find? (·.kind = .endOfInput), tokens.getLast? with
  | some last, _ =>
      if body.isEmpty then .error ⟨last.offset, .emptyQuery⟩ else Parser.query last body
  | none, some last => Parser.query last (tokens ++ List.replicate (maxNesting + 1) last)
  | none, none => .error ⟨0, .noTokens⟩

end CqlGateway
