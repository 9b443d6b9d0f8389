import CqlGateway.Proofs.Outcome
import CqlGateway.Proofs.Query.Cursor
import CqlGateway.Query.Parse

/-! Reads a query off a cursor that moves through a row of tokens, with a count of the parentheses
that are open. The cursor stays at the end of the query, so nothing behind that end is looked at.
-/

namespace CqlGateway

-----------------------------------------------------------------------------------------
-- Cursors in front of an end
-----------------------------------------------------------------------------------------

/-- A cursor in a row of tokens that closes with the end of a query. -/
structure QueryCursor extends TokenCursor where
  ends : tokens.getLast?.map Token.kind = some .endOfInput

namespace QueryCursor

variable {cursor next : QueryCursor} {kind : TokenKind} {pattern : List TokenKind}

/-- The cursor behind an operation. It is in the same row. -/
def behind (cursor : QueryCursor) (operation : TokenCursor.Operation) : QueryCursor :=
  {
    toTokenCursor := cursor.toTokenCursor.after operation
    ends := by
      rw [(cursor.toTokenCursor.reaches_after operation).tokens]
      exact cursor.ends
  }

/-- The first token of a row. -/
def ofTokens (tokens : List Token) (ends : tokens.getLast?.map Token.kind = some .endOfInput)
    : QueryCursor :=
  {
    tokens := tokens
    position := 0
    position_lt := by
      cases tokens with
      | nil => cases ends
      | cons => exact Nat.succ_pos _
    ends := ends
  }

def advance (cursor : QueryCursor) : QueryCursor :=
  cursor.behind .advance

def accept (cursor : QueryCursor) (kind : TokenKind) : Option Token × QueryCursor :=
  ((cursor.toTokenCursor.accept kind).1, cursor.behind (.accept kind))

def take (cursor : QueryCursor) (pattern : List TokenKind) : Option (List Token) × QueryCursor :=
  ((cursor.toTokenCursor.take pattern).1, cursor.behind (.take pattern))

/-- So many tokens are ahead, the one at the cursor included. -/
def remaining (cursor : QueryCursor) : Nat :=
  cursor.ahead.length

theorem remaining_behind_le (cursor : QueryCursor) (operation : TokenCursor.Operation)
    : (cursor.behind operation).remaining ≤ cursor.remaining := by
  obtain ⟨tokens, position⟩ := cursor.toTokenCursor.reaches_after operation
  simp only [remaining, behind, TokenCursor.ahead, List.length_drop, tokens]
  omega

/-- Only at the end there is nothing further ahead. -/
theorem position_lt_lastPosition (inside : cursor.peek.kind ≠ .endOfInput)
    : cursor.position < cursor.lastPosition := by
  have here := cursor.position_lt
  by_contra last
  have isLast : cursor.position + 1 = cursor.tokens.length := by
    unfold TokenCursor.lastPosition at last
    omega
  have same : cursor.tokens.getLast? = some cursor.peek := by
    rw [List.getLast?_eq_getElem?, ← isLast, Nat.add_sub_cancel, cursor.getElem?_position]
  have ends := cursor.ends
  rw [same] at ends
  exact inside (Option.some.inj ends)

theorem ahead_advance (inside : cursor.peek.kind ≠ .endOfInput)
    : cursor.ahead = cursor.peek :: cursor.advance.ahead := by
  obtain ⟨rest, ahead⟩ := cursor.ahead_eq_cons
  have moved : cursor.advance.position = cursor.position + 1 := by
    have before := position_lt_lastPosition inside
    simp only [advance, behind, TokenCursor.after, TokenCursor.advance_eq, TokenCursor.moveTo]
    omega
  have row : cursor.advance.tokens = cursor.tokens :=
    (cursor.toTokenCursor.reaches_after .advance).tokens
  have tail : cursor.advance.ahead = cursor.ahead.tail := by
    rw [TokenCursor.ahead, TokenCursor.ahead, moved, row, List.tail_drop]
  rw [tail, ahead, List.tail_cons]

theorem remaining_advance_le (cursor : QueryCursor)
    : cursor.advance.remaining ≤ cursor.remaining :=
  cursor.remaining_behind_le .advance

theorem remaining_advance_lt (inside : cursor.peek.kind ≠ .endOfInput)
    : cursor.advance.remaining < cursor.remaining := by
  rw [remaining, remaining, ahead_advance inside, List.length_cons]
  exact Nat.lt_succ_self _

theorem accept_of_eq (same : cursor.peek.kind = kind)
    : cursor.accept kind = (some cursor.peek, cursor.advance) := by
  have accepted : cursor.toTokenCursor.accept kind
      = (some cursor.peek, cursor.toTokenCursor.advance.2) := by
    rw [TokenCursor.accept, if_pos same, TokenCursor.advance_eq]
  simp only [accept, advance, behind, TokenCursor.after, accepted]

theorem accept_of_ne (differs : cursor.peek.kind ≠ kind)
    : cursor.accept kind = (none, cursor) := by
  have refused : cursor.toTokenCursor.accept kind = (none, cursor.toTokenCursor) := by
    rw [TokenCursor.accept, if_neg differs]
  simp only [accept, behind, TokenCursor.after, refused]

theorem remaining_accept_lt {token : Token} (inside : kind ≠ .endOfInput)
    (accepted : cursor.accept kind = (some token, next))
    : next.remaining < cursor.remaining := by
  by_cases same : cursor.peek.kind = kind
  · rw [accept_of_eq same] at accepted
    obtain ⟨-, rfl⟩ := Prod.mk.inj accepted
    exact remaining_advance_lt (same ▸ inside)
  · rw [accept_of_ne same] at accepted
    cases accepted

end QueryCursor

-----------------------------------------------------------------------------------------
-- Modifiers and clauses
-----------------------------------------------------------------------------------------

/-- What reading from a cursor gives: a value and the cursor behind it. -/
abbrev CursorReading (α : Type) := α × QueryCursor

namespace CursorParser

open Outcome (bind_eq_ok pure_eq_ok)

variable {cursor next : QueryCursor}

/-- The error that something else was expected at the cursor. -/
def unexpected (expected : Expectation) (cursor : QueryCursor) : ParseError :=
  .expecting expected cursor.peek

/-- The value of a term. It is empty for other tokens. -/
def valueOf (token : Token) : String :=
  token.data.termValue?.getD ""

/-- The name that a term stands for. -/
def nameOf (token : Token) : String :=
  Term.decode (valueOf token)

/-- What a modifier is compared with, if there is a comparison. -/
def compared (cursor : QueryCursor)
    : Except ParseError (CursorReading (Option (Comparison × String))) :=
  match cursor.peek.data with
  | .comparison symbol =>
      let value := cursor.advance
      if value.peek.kind = .term then
        .ok (some (symbol, valueOf value.peek), value.advance)
      else
        .error (unexpected .modifierValue value)
  | _ => .ok (none, cursor)

theorem compared_remaining {value : Option (Comparison × String)}
    (read : compared cursor = .ok (value, next))
    : next.remaining ≤ cursor.remaining := by
  unfold compared at read
  split at read
  · dsimp only at read
    split at read
    · obtain ⟨-, rfl⟩ := Prod.mk.inj (Except.ok.inj read)
      exact Nat.le_trans (QueryCursor.remaining_advance_le _) (QueryCursor.remaining_advance_le _)
    · cases read
  · obtain ⟨-, rfl⟩ := Prod.mk.inj (Except.ok.inj read)
    exact Nat.le_refl _

/-- The modifiers at the cursor, behind those that were read. -/
def modifiersBehind (read : List Modifier) (cursor : QueryCursor)
    : Except ParseError (CursorReading (List Modifier)) :=
  match _accepted : cursor.accept .slash with
  | (none, _) => .ok (read, cursor)
  | (some _, name) =>
      if name.peek.kind = .term then
        match _compared : compared name.advance with
        | .error error => .error error
        | .ok (comparison, next) =>
            modifiersBehind (read ++ [⟨nameOf name.peek, comparison, name.peek.offset⟩]) next
      else
        .error (unexpected .modifierName name)
termination_by cursor.remaining
decreasing_by
  have := QueryCursor.remaining_accept_lt (by decide) _accepted
  have := compared_remaining _compared
  have := name.remaining_advance_le
  omega

/-- The modifiers at the cursor, if any. -/
def modifiers (cursor : QueryCursor) : Except ParseError (CursorReading (List Modifier)) :=
  modifiersBehind [] cursor

theorem modifiersBehind_remaining {read all : List Modifier}
    (found : modifiersBehind read cursor = .ok (all, next))
    : next.remaining ≤ cursor.remaining := by
  fun_induction modifiersBehind read cursor with
  | case1 =>
      obtain ⟨-, rfl⟩ := Prod.mk.inj (Except.ok.inj found)
      exact Nat.le_refl _
  | case2 | case4 => cases found
  | case3 read cursor _ name accepted _ comparison behind compared ih =>
      have := QueryCursor.remaining_accept_lt (by decide) accepted
      have := compared_remaining compared
      have := name.remaining_advance_le
      have := ih found
      omega

/-- The term at the cursor. Behind a relation keywords count with their words. -/
def term (afterRelation : Bool) (cursor : QueryCursor) : Except ParseError (CursorReading String) :=
  match cursor.peek.kind, afterRelation with
  | .term, _ => .ok (valueOf cursor.peek, cursor.advance)
  | .operator, true | .relation, true | .sortBy, true =>
      .ok (cursor.peek.data.text, cursor.advance)
  | _, true => .error (unexpected .searchTermAfterRelation cursor)
  | _, false => .error (unexpected .searchTerm cursor)

theorem term_remaining {afterRelation : Bool} {text : String}
    (read : term afterRelation cursor = .ok (text, next))
    : next.remaining < cursor.remaining := by
  unfold term at read
  split at read
  case h_5 | h_6 => cases read
  all_goals
    obtain ⟨-, rfl⟩ := Prod.mk.inj (Except.ok.inj read)
    exact QueryCursor.remaining_advance_lt (by simp_all)

/-- The rest of a clause behind its index and relation. -/
def qualifiedClause (index : Token) (relation : Relation) (offset : Nat) (cursor : QueryCursor)
    : Except ParseError (CursorReading QueryTree) := do
  let (read, word) ← modifiers cursor
  let (text, next) ← term true word
  return (
    .search {
      index := some (nameOf index)
      relation := relation
      modifiers := read
      term := text
      offset := offset
    },
    next
  )

/-- A clause: an index, a relation and a term, or a term on its own. -/
def clause (cursor : QueryCursor) : Except ParseError (CursorReading QueryTree) :=
  match cursor.take [.term, .comparison] with
  | (some [index, ⟨.comparison symbol, _⟩], next) =>
      qualifiedClause index (.comparison symbol) cursor.peek.offset next
  | _ =>
      match cursor.take [.term, .relation] with
      | (some [index, ⟨.relation name, _⟩], next) =>
          qualifiedClause index (.named name) cursor.peek.offset next
      | _ => do
          let (text, next) ← term false cursor
          return (.search (.bare text cursor.peek.offset), next)

theorem qualifiedClause_remaining {index : Token} {relation : Relation} {offset : Nat}
    {tree : QueryTree} (read : qualifiedClause index relation offset cursor = .ok (tree, next))
    : next.remaining < cursor.remaining := by
  obtain ⟨⟨read, word⟩, modified, read⟩ := bind_eq_ok.mp read
  obtain ⟨⟨text, behind⟩, found, read⟩ := bind_eq_ok.mp read
  obtain ⟨-, rfl⟩ := Prod.mk.inj (pure_eq_ok.mp read)
  exact Nat.lt_of_lt_of_le (term_remaining found) (modifiersBehind_remaining modified)

theorem clause_remaining {tree : QueryTree} (read : clause cursor = .ok (tree, next))
    : next.remaining < cursor.remaining := by
  have taken {pattern : List TokenKind} {window : Option (List Token)} {behind : QueryCursor}
      (found : cursor.take pattern = (window, behind))
      : behind.remaining ≤ cursor.remaining := by
    obtain ⟨-, rfl⟩ := Prod.mk.inj found
    exact cursor.remaining_behind_le _
  unfold clause at read
  split at read
  · next found => exact Nat.lt_of_lt_of_le (qualifiedClause_remaining read) (taken found)
  · split at read
    · next found => exact Nat.lt_of_lt_of_le (qualifiedClause_remaining read) (taken found)
    · obtain ⟨⟨text, behind⟩, found, read⟩ := bind_eq_ok.mp read
      obtain ⟨-, rfl⟩ := Prod.mk.inj (pure_eq_ok.mp read)
      exact term_remaining found

-----------------------------------------------------------------------------------------
-- Operands and operators
-----------------------------------------------------------------------------------------

/-- Reads a value off the front of what is ahead, and at least one token with it. -/
structure CursorReader (α : Type) where
  read : QueryCursor → Except ParseError (CursorReading α)
  shortens
    : ∀ {cursor value next}, read cursor = .ok (value, next) → next.remaining < cursor.remaining

/-- What may stand between an operator and its right operand: modifiers behind `prox`, nothing
behind others.
-/
def operatorModifiers (operator : BooleanOperator) (cursor : QueryCursor)
    : Except ParseError (CursorReading (List Modifier)) :=
  if operator = .prox then
    modifiers cursor
  else
    match cursor.accept .slash with
    | (some slash, _) => .error ⟨slash.offset, .modifiersOn operator⟩
    | (none, _) => .ok ([], cursor)

theorem operatorModifiers_remaining {operator : BooleanOperator} {read : List Modifier}
    (found : operatorModifiers operator cursor = .ok (read, next))
    : next.remaining ≤ cursor.remaining := by
  unfold operatorModifiers at found
  split at found
  · exact modifiersBehind_remaining found
  · split at found
    · cases found
    · obtain ⟨-, rfl⟩ := Prod.mk.inj (Except.ok.inj found)
      exact Nat.le_refl _

/-- The operators and operands behind a first operand, joined to it from left to right. -/
def operators (operand : CursorReader QueryTree) (left : QueryTree) (cursor : QueryCursor)
    : Except ParseError (CursorReading QueryTree) :=
  match _isOperator : cursor.peek.data with
  | .operator operator _ =>
      match _modified : operatorModifiers operator cursor.advance with
      | .error error => .error error
      | .ok (read, behindModifiers) =>
          match _found : operand.read behindModifiers with
          | .error error => .error error
          | .ok (right, next) => operators operand (.boolean operator read left right) next
  | _ => .ok (left, cursor)
termination_by cursor.remaining
decreasing_by
  have inside : cursor.peek.kind ≠ .endOfInput := by
    simp [Token.kind, _isOperator, TokenData.kind]
  have := QueryCursor.remaining_advance_lt inside
  have := operatorModifiers_remaining _modified
  have := operand.shortens _found
  omega

theorem operators_remaining {operand : CursorReader QueryTree} {left tree : QueryTree}
    (read : operators operand left cursor = .ok (tree, next))
    : next.remaining ≤ cursor.remaining := by
  fun_induction operators operand left cursor with
  | case1 | case2 => cases read
  | case3 left cursor operator word isOperator read behind modified right after found ih =>
      have := cursor.remaining_advance_le
      have := operatorModifiers_remaining modified
      have := operand.shortens found
      have := ih read
      omega
  | case4 =>
      obtain ⟨-, rfl⟩ := Prod.mk.inj (Except.ok.inj read)
      exact Nat.le_refl _

/-- Operands joined by operators. -/
def operands (operand : CursorReader QueryTree) (cursor : QueryCursor)
    : Except ParseError (CursorReading QueryTree) := do
  let (left, next) ← operand.read cursor
  operators operand left next

theorem operands_remaining {operand : CursorReader QueryTree} {tree : QueryTree}
    (read : operands operand cursor = .ok (tree, next))
    : next.remaining < cursor.remaining := by
  obtain ⟨⟨left, behind⟩, found, read⟩ := bind_eq_ok.mp read
  exact Nat.lt_of_le_of_lt (operators_remaining read) (operand.shortens found)

/-- What stands behind an opening parenthesis, up to the closing one. -/
def closed (outcome : Except ParseError (CursorReading QueryTree))
    : Except ParseError (CursorReading QueryTree) := do
  let (tree, closing) ← outcome
  match closing.accept .closeParen with
  | (some _, next) => return (tree, next)
  | (none, _) => throw (unexpected .closeParen closing)

theorem exists_of_closed {outcome : Except ParseError (CursorReading QueryTree)} {tree : QueryTree}
    (read : closed outcome = .ok (tree, next))
    : ∃ closing, outcome = .ok (tree, closing) ∧ next.remaining ≤ closing.remaining := by
  obtain ⟨⟨inner, closing⟩, found, read⟩ := bind_eq_ok.mp read
  dsimp only at read
  split at read
  · next behind accepted =>
      obtain ⟨rfl, rfl⟩ := Prod.mk.inj (pure_eq_ok.mp read)
      obtain ⟨-, rfl⟩ := Prod.mk.inj accepted
      exact ⟨closing, found, closing.remaining_behind_le _⟩
  · cases read

/-- An operand with so many parentheses open around it. -/
def operand (depth : Nat) : CursorReader QueryTree :=
  {
    read := fun cursor =>
      match cursor.accept .openParen with
      | (none, _) => clause cursor
      | (some opening, inside) =>
          if _tooDeep : maxNesting ≤ depth then
            .error ⟨opening.offset, .nestedTooDeeply⟩
          else
            closed (operands (operand (depth + 1)) inside)
    shortens := by
      intro cursor tree next read
      split at read
      · exact clause_remaining read
      · next opening inside accepted =>
          split at read
          · cases read
          · obtain ⟨closing, found, behind⟩ := exists_of_closed read
            have := QueryCursor.remaining_accept_lt (by decide) accepted
            have := operands_remaining found
            omega
  }
termination_by maxNesting - depth

-----------------------------------------------------------------------------------------
-- Queries
-----------------------------------------------------------------------------------------

/-- The sort keys at the cursor, behind those that were read. -/
def sortKeysBehind (read : List SortKey) (cursor : QueryCursor)
    : Except ParseError (CursorReading (List SortKey)) :=
  match _accepted : cursor.accept .term with
  | (none, _) => .ok (read, cursor)
  | (some index, behindIndex) =>
      match _modified : modifiers behindIndex with
      | .error error => .error error
      | .ok (modifiers, next) => sortKeysBehind (read ++ [⟨nameOf index, modifiers⟩]) next
termination_by cursor.remaining
decreasing_by
  have := QueryCursor.remaining_accept_lt (by decide) _accepted
  have := modifiersBehind_remaining _modified
  omega

/-- The keys behind the sort keyword. There is at least one. -/
def sortKeys (cursor : QueryCursor) : Except ParseError (CursorReading (List SortKey)) := do
  let (keys, next) ← sortKeysBehind [] cursor
  if keys.isEmpty then
    throw (unexpected .sortKey next)
  return (keys, next)

/-- The sort part, if there is one. -/
def sortPart (cursor : QueryCursor) : Except ParseError (CursorReading (Option (List SortKey))) :=
  match cursor.accept .sortBy with
  | (some _, behindKeyword) => do
      let (keys, next) ← sortKeys behindKeyword
      return (some keys, next)
  | (none, _) => .ok (none, cursor)

/-- The query from the cursor on. Nothing but the end may be left behind it. -/
def query (cursor : QueryCursor) : Except ParseError CqlQuery := do
  if cursor.atEnd then
    throw ⟨cursor.peek.offset, .emptyQuery⟩
  let (root, behindRoot) ← operands (operand 0) cursor
  let (sort, last) ← sortPart behindRoot
  if last.atEnd then
    return ⟨root, sort⟩
  else
    throw (unexpected .endOfQuery last)

end CursorParser

end CqlGateway
