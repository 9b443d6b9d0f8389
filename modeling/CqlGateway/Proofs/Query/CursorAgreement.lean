import CqlGateway.Proofs.Query.Acceptance
import CqlGateway.Proofs.Query.CursorParser
import CqlGateway.Proofs.Query.Parsing

/-! A query is read off a cursor as it is read off the list of the tokens in front of the first end.
Each reader of one kind ends as its counterpart does: with the same error, or with the same value
and the cursor at the tokens that are left of the list.
-/

namespace CqlGateway

variable {cursor : QueryCursor} {last token : Token} {tokens front rest : List Token}
  {kind : TokenKind}

-----------------------------------------------------------------------------------------
-- What tokens of a kind hold
-----------------------------------------------------------------------------------------

namespace TokenData

variable {data : TokenData}

theorem eq_openParen (isKind : data.kind = .openParen) : data = .openParen := by
  cases data <;> first | rfl | cases isKind

theorem eq_closeParen (isKind : data.kind = .closeParen) : data = .closeParen := by
  cases data <;> first | rfl | cases isKind

theorem eq_slash (isKind : data.kind = .slash) : data = .slash := by
  cases data <;> first | rfl | cases isKind

theorem exists_eq_comparison (isKind : data.kind = .comparison)
    : ∃ symbol, data = .comparison symbol := by
  cases data <;> first | exact ⟨_, rfl⟩ | cases isKind

theorem exists_eq_relation (isKind : data.kind = .relation) : ∃ name, data = .relation name := by
  cases data <;> first | exact ⟨_, rfl⟩ | cases isKind

theorem exists_eq_operator (isKind : data.kind = .operator)
    : ∃ operator word, data = .operator operator word := by
  cases data <;> first | exact ⟨_, _, rfl⟩ | cases isKind

theorem exists_eq_term (isKind : data.kind = .term)
    : ∃ raw value quoted, data = .term raw value quoted := by
  cases data <;> first | exact ⟨_, _, _, rfl⟩ | cases isKind

theorem exists_eq_sortBy (isKind : data.kind = .sortBy) : ∃ word, data = .sortBy word := by
  cases data <;> first | exact ⟨_, rfl⟩ | cases isKind

end TokenData

-----------------------------------------------------------------------------------------
-- What a cursor shows
-----------------------------------------------------------------------------------------

namespace QueryCursor

/-- Up to the first end these tokens are ahead, and `last` is that end. -/
structure Shows (cursor : QueryCursor) (last : Token) (tokens : List Token) : Prop where
  inside : ∀ token ∈ tokens, token.kind ≠ .endOfInput
  closes : last.kind = .endOfInput
  ahead : ∃ behind, cursor.ahead = tokens ++ last :: behind

theorem Shows.peek (shows : cursor.Shows last tokens)
    : cursor.peek = Parser.next last tokens := by
  obtain ⟨behind, ahead⟩ := shows.ahead
  obtain ⟨others, begins⟩ := cursor.ahead_eq_cons
  rw [begins] at ahead
  cases tokens with
  | nil => exact (List.cons.inj ahead).1
  | cons token rest => exact (List.cons.inj ahead).1

theorem Shows.peek_cons (shows : cursor.Shows last (token :: rest)) : cursor.peek = token :=
  shows.peek

theorem Shows.peek_kind (shows : cursor.Shows last (token :: rest)) (isKind : token.kind = kind)
    : cursor.peek.kind = kind := by
  rw [shows.peek_cons, isKind]

theorem Shows.peek_data (shows : cursor.Shows last (token :: rest))
    : cursor.peek.data = token.data :=
  congrArg Token.data shows.peek

theorem Shows.advance (shows : cursor.Shows last (token :: rest))
    : cursor.advance.Shows last rest := by
  obtain ⟨inside, closes, behind, ahead⟩ := shows
  obtain ⟨here, inside⟩ := List.forall_mem_cons.mp inside
  obtain ⟨others, begins⟩ := cursor.ahead_eq_cons
  obtain ⟨same, -⟩ := List.cons.inj (begins.symm.trans ahead)
  rw [ahead_advance (same ▸ here)] at ahead
  exact ⟨inside, closes, behind, (List.cons.inj ahead).2⟩

/-- A kind other than that of the end is at the cursor only if the tokens begin with it. -/
theorem Shows.exists_of_peek_kind (shows : cursor.Shows last tokens)
    (isKind : cursor.peek.kind = kind) (noEnd : kind ≠ .endOfInput)
    : ∃ data offset rest, tokens = ⟨data, offset⟩ :: rest ∧ data.kind = kind := by
  rw [shows.peek] at isKind
  cases tokens with
  | nil => exact absurd (isKind.symm.trans shows.closes) noEnd
  | cons token rest => exact ⟨token.data, token.offset, rest, rfl, isKind⟩

theorem Shows.peek_kind_ne (shows : cursor.Shows last tokens) (noEnd : kind ≠ .endOfInput)
    (none : ∀ data offset rest, data.kind = kind → tokens = ⟨data, offset⟩ :: rest → False)
    : cursor.peek.kind ≠ kind := by
  intro isKind
  obtain ⟨data, offset, rest, begins, isKind⟩ := shows.exists_of_peek_kind isKind noEnd
  exact none data offset rest isKind begins

theorem Shows.peek_kind_ne_term (shows : cursor.Shows last tokens)
    (none : ∀ raw value quoted offset rest,
      tokens = ⟨.term raw value quoted, offset⟩ :: rest → False)
    : cursor.peek.kind ≠ .term := by
  refine shows.peek_kind_ne (by decide) fun data offset rest isKind => ?_
  obtain ⟨raw, value, quoted, rfl⟩ := TokenData.exists_eq_term isKind
  exact none raw value quoted offset rest

theorem Shows.peek_kind_ne_slash (shows : cursor.Shows last tokens)
    (none : ∀ offset rest, tokens = ⟨.slash, offset⟩ :: rest → False)
    : cursor.peek.kind ≠ .slash := by
  refine shows.peek_kind_ne (by decide) fun data offset rest isKind => ?_
  obtain rfl := TokenData.eq_slash isKind
  exact none offset rest

/-- What begins with tokens of some kinds is taken by these kinds. -/
theorem Shows.take (shows : cursor.Shows last (front ++ rest))
    : ∃ next,
        cursor.take (front.map Token.kind) = (some front, next) ∧ next.Shows last rest := by
  obtain ⟨inside, closes, behind, ahead⟩ := shows
  have isAt : cursor.IsAt (front.map Token.kind) := by
    rw [TokenCursor.IsAt, ahead, List.append_assoc, List.map_append]
    exact List.prefix_append _ _
  have taken := TokenCursor.take_of_isAt isAt
  have window : cursor.toTokenCursor.ahead.take (front.map Token.kind).length = front := by
    rw [ahead, List.append_assoc, List.length_map, List.take_left]
  have moved : (cursor.behind (.take (front.map Token.kind))).toTokenCursor
      = cursor.moveTo (cursor.position + front.length) := by
    simp only [QueryCursor.behind, TokenCursor.after, taken, List.length_map]
  have place : min (cursor.position + front.length) cursor.lastPosition
      = cursor.position + front.length := by
    have whole := cursor.length_ahead
    rw [ahead] at whole
    simp only [List.length_append, List.length_cons, TokenCursor.lastPosition] at whole ⊢
    omega
  refine ⟨cursor.behind (.take (front.map Token.kind)), ?_,
    fun token member => inside token (List.mem_append_right _ member), closes, behind, ?_⟩
  · rw [QueryCursor.take, taken, window]
  · have tail : cursor.ahead.drop front.length = rest ++ last :: behind := by
      rw [ahead, List.append_assoc, List.drop_left]
    rw [moved, ← tail]
    simp only [TokenCursor.ahead, TokenCursor.moveTo, place, List.drop_drop]

/-- Where the tokens do not begin with these two kinds, nothing is taken. -/
theorem Shows.take_pair_of_ne {second : TokenKind} (shows : cursor.Shows last tokens)
    (noEnd : kind ≠ .endOfInput ∧ second ≠ .endOfInput)
    (differs : ∀ one two rest, tokens = one :: two :: rest → one.kind = kind → two.kind ≠ second)
    : cursor.take [kind, second] = (none, cursor) := by
  obtain ⟨-, closes, behind, ahead⟩ := shows
  have notAt : ¬ cursor.IsAt [kind, second] := by
    rw [TokenCursor.IsAt, ahead]
    cases tokens with
    | nil => simp [closes, noEnd.1]
    | cons one others =>
        cases others with
        | nil => simp [closes, noEnd.2]
        | cons two rest =>
            simp only [List.cons_append, List.map_cons, List.cons_prefix_cons, List.nil_prefix]
            rintro ⟨sameFirst, sameSecond, -⟩
            exact differs one two rest rfl sameFirst.symm sameSecond.symm
  have refused := TokenCursor.take_of_not_isAt notAt
  simp only [QueryCursor.take, QueryCursor.behind, TokenCursor.after, refused]

end QueryCursor

-----------------------------------------------------------------------------------------
-- Modifiers and clauses
-----------------------------------------------------------------------------------------

namespace CursorParser

open QueryCursor (accept_of_eq accept_of_ne)

variable {α : Type}

/-- A reading from a cursor and one from a list end with the same error, or with the same value and
the cursor at the tokens that are left of the list.
-/
inductive Agrees (last : Token)
    : Except ParseError (CursorReading α) → Except ParseError (Reading α) → Prop where
  | error (error : ParseError) : Agrees last (.error error) (.error error)
  | ok {cursor : QueryCursor} {rest : List Token} (value : α) (shows : cursor.Shows last rest)
    : Agrees last (.ok (value, cursor)) (.ok (value, rest))

namespace Agrees

variable {onCursor : Except ParseError (CursorReading α)} {onList : Except ParseError (Reading α)}

theorem eq_error {error : ParseError} (agrees : Agrees last onCursor onList)
    (failed : onList = .error error)
    : onCursor = .error error := by
  cases agrees with
  | error => rw [Except.error.inj failed]
  | ok => cases failed

theorem exists_of_ok {value : α} (agrees : Agrees last onCursor onList)
    (read : onList = .ok (value, rest))
    : ∃ next, onCursor = .ok (value, next) ∧ next.Shows last rest := by
  cases agrees with
  | error => cases read
  | ok _ shows =>
      obtain ⟨rfl, rfl⟩ := Prod.mk.inj (Except.ok.inj read)
      exact ⟨_, rfl, shows⟩

end Agrees

theorem unexpected_eq (shows : cursor.Shows last tokens) (expected : Expectation)
    : unexpected expected cursor = Parser.unexpected last expected tokens := by
  rw [unexpected, Parser.unexpected, shows.peek]

variable {symbol : Comparison} {raw value : String} {quoted : Bool} {offset place : Nat}
  {read : List Modifier}

theorem compared_of_value
    (shows
      : cursor.Shows last
          (⟨.comparison symbol, offset⟩ :: ⟨.term raw value quoted, place⟩ :: rest))
    : compared cursor = .ok (some (symbol, value), cursor.advance.advance) := by
  simp [compared, shows.peek_cons, shows.advance.peek_cons, Token.kind, TokenData.kind, valueOf,
    TokenData.termValue?]

theorem compared_of_no_value (shows : cursor.Shows last (⟨.comparison symbol, offset⟩ :: rest))
    (none : ∀ raw value quoted offset others,
      rest = ⟨.term raw value quoted, offset⟩ :: others → False)
    : compared cursor = .error (Parser.unexpected last .modifierValue rest) := by
  simp [compared, shows.peek_cons, shows.advance.peek_kind_ne_term none,
    unexpected_eq shows.advance]

theorem compared_of_none (shows : cursor.Shows last tokens)
    (none : ∀ symbol offset rest, tokens = ⟨.comparison symbol, offset⟩ :: rest → False)
    : compared cursor = .ok (Option.none, cursor) := by
  have noSymbol : cursor.peek.kind ≠ .comparison := by
    refine shows.peek_kind_ne (by decide) fun data offset rest isKind => ?_
    obtain ⟨symbol, rfl⟩ := TokenData.exists_eq_comparison isKind
    exact none symbol offset rest
  unfold compared
  split
  · next symbol found => exact absurd (by rw [Token.kind, found]; rfl) noSymbol
  · rfl

theorem modifiersBehind_of_ne (none : cursor.peek.kind ≠ .slash)
    : modifiersBehind read cursor = .ok (read, cursor) := by
  rw [modifiersBehind]
  split
  · rfl
  · next accepted =>
      rw [accept_of_ne none] at accepted
      cases accepted

theorem modifiersBehind_of_slash (slash : cursor.peek.kind = .slash)
    : modifiersBehind read cursor
      = if cursor.advance.peek.kind = .term then do
          let (comparison, next) ← compared cursor.advance.advance
          modifiersBehind
            (read ++ [⟨nameOf cursor.advance.peek, comparison, cursor.advance.peek.offset⟩]) next
        else
          .error (unexpected .modifierName cursor.advance) := by
  rw [modifiersBehind]
  split
  · next refused =>
      rw [accept_of_eq slash] at refused
      cases refused
  · next name accepted =>
      rw [accept_of_eq slash] at accepted
      obtain ⟨-, rfl⟩ := Prod.mk.inj accepted
      split
      · split
        · next failed =>
            rw [failed]
            rfl
        · next found =>
            rw [found]
            rfl
      · rfl

/-- What was read stands in front of what is read next. -/
def precededBy (read : List α) (reading : Reading (List α)) : Reading (List α) :=
  (read ++ reading.1, reading.2)

theorem map_precededBy_nil (outcome : Except ParseError (Reading (List α)))
    : precededBy [] <$> outcome = outcome :=
  id_map outcome

theorem map_precededBy_ok (read : List α) (tokens : List Token)
    : precededBy read <$> (.ok ([], tokens) : Except ParseError (Reading (List α)))
      = .ok (read, tokens) := by
  simp [precededBy, Functor.map, Except.map]

/-- A value in front of others stands behind those that were read. -/
theorem map_precededBy_cons (read : List α) (value : α)
    (outcome : Except ParseError (Reading (List α)))
    : precededBy read <$> ((fun reading => (value :: reading.1, reading.2)) <$> outcome)
      = precededBy (read ++ [value]) <$> outcome := by
  cases outcome with
  | error => rfl
  | ok reading => simp [precededBy, Functor.map, Except.map]

theorem map_precededBy_consModifier (name : String) (comparison : Option (Comparison × String))
    (offset : Nat) (outcome : Except ParseError (Reading (List Modifier)))
    : precededBy read <$> (Parser.consModifier name comparison offset <$> outcome)
      = precededBy (read ++ [⟨Term.decode name, comparison, offset⟩]) <$> outcome :=
  map_precededBy_cons read _ outcome

/-- Modifiers are read alike, by the shapes of their tokens. -/
theorem agrees_modifiersBehind (shows : cursor.Shows last tokens) (read : List Modifier)
    : Agrees last (modifiersBehind read cursor)
        (precededBy read <$> Parser.modifiers last tokens) := by
  fun_induction Parser.modifiers last tokens generalizing cursor read with
  | case1 _ _ _ _ _ _ _ _ _ _ _ _ ih =>
      rw [modifiersBehind_of_slash (shows.peek_kind rfl), if_pos (shows.advance.peek_kind (by rfl)),
        compared_of_value shows.advance.advance, map_precededBy_consModifier,
        shows.advance.peek_cons]
      exact ih shows.advance.advance.advance.advance _
  | case2 _ _ _ _ _ _ _ _ none =>
      rw [modifiersBehind_of_slash (shows.peek_kind rfl), if_pos (shows.advance.peek_kind (by rfl)),
        compared_of_no_value shows.advance.advance none]
      exact .error _
  | case3 _ _ _ _ _ _ _ none ih =>
      rw [modifiersBehind_of_slash (shows.peek_kind rfl), if_pos (shows.advance.peek_kind (by rfl)),
        compared_of_none shows.advance.advance none, map_precededBy_consModifier,
        shows.advance.peek_cons]
      exact ih shows.advance.advance _
  | case4 _ _ _ _ none =>
      rw [modifiersBehind_of_slash (shows.peek_kind rfl),
        if_neg (shows.advance.peek_kind_ne_term none), unexpected_eq shows.advance]
      exact .error _
  | case5 tokens _ _ _ none =>
      rw [modifiersBehind_of_ne (shows.peek_kind_ne_slash none), map_precededBy_ok]
      exact .ok _ shows

theorem agrees_modifiers (shows : cursor.Shows last tokens)
    : Agrees last (modifiers cursor) (Parser.modifiers last tokens) := by
  rw [← map_precededBy_nil (Parser.modifiers last tokens)]
  exact agrees_modifiersBehind shows []

theorem term_of_word {text : String} (shows : cursor.Shows last (token :: rest))
    (found : Parser.textAfterRelation? token.data = some text)
    : term true cursor = .ok (text, cursor.advance) := by
  obtain ⟨data, offset⟩ := token
  cases data with
  | term | operator | relation | sortBy =>
      obtain rfl := Option.some.inj found
      simp [term, shows.peek_cons, Token.kind, TokenData.kind, valueOf, TokenData.termValue?,
        TokenData.text]
  | _ => cases found

theorem term_of_no_word (shows : cursor.Shows last tokens)
    (none : ∀ token rest,
      tokens = token :: rest → Parser.textAfterRelation? token.data = Option.none)
    : term true cursor
      = .error (Parser.unexpected last .searchTermAfterRelation tokens) := by
  rw [← unexpected_eq shows]
  cases tokens with
  | nil =>
      have atEnd : cursor.peek.kind = .endOfInput := by rw [shows.peek]; exact shows.closes
      simp [term, atEnd]
  | cons token rest =>
      have noWord := none token rest rfl
      obtain ⟨data, offset⟩ := token
      cases data with
      | term | operator | relation | sortBy => cases noWord
      | _ => simp [term, shows.peek_cons, Token.kind, TokenData.kind]

theorem agrees_qualifiedClause {index : Token} {name : String}
    (isTerm : index.data.termValue? = some name) (relation : Relation) (offset : Nat)
    (shows : cursor.Shows last tokens)
    : Agrees last (qualifiedClause index relation offset cursor)
        (Parser.qualifiedClause last name relation offset tokens) := by
  have agrees := agrees_modifiers shows
  unfold Parser.qualifiedClause
  split
  · next failed =>
      simp only [qualifiedClause, agrees.eq_error failed, bind, Except.bind]
      exact .error _
  · next read rest found =>
      obtain ⟨next, same, behind⟩ := agrees.exists_of_ok found
      simp only [qualifiedClause, same, bind, Except.bind]
      cases rest with
      | nil =>
          rw [term_of_no_word behind (by simp)]
          exact .error _
      | cons token others =>
          cases word : Parser.textAfterRelation? token.data with
          | none =>
              rw [term_of_no_word behind (by rintro _ _ ⟨⟩; exact word)]
              simp only [word]
              exact .error _
          | some text =>
              have name : nameOf index = Term.decode name := by
                rw [nameOf, valueOf, isTerm, Option.getD_some]
              rw [term_of_word behind word, name]
              simp only [word]
              exact .ok _ behind.advance

/-- A term on its own is left where neither pair of tokens is at the cursor. -/
theorem clause_of_bare (noSymbol : cursor.take [.term, .comparison] = (none, cursor))
    (noRelation : cursor.take [.term, .relation] = (none, cursor))
    : clause cursor
      = do
        let (text, next) ← term false cursor
        return (.search (.bare text cursor.peek.offset), next) := by
  simp only [clause, noSymbol, noRelation]

/-- A clause is read alike, by its first tokens. -/
theorem agrees_clause (shows : cursor.Shows last tokens)
    : Agrees last (clause cursor) (Parser.clause last tokens) := by
  fun_cases Parser.clause last tokens with
  | case1 raw index quoted offset symbol place rest =>
      obtain ⟨next, taken, behind⟩ := @QueryCursor.Shows.take cursor last
        [⟨.term raw index quoted, offset⟩, ⟨.comparison symbol, place⟩] rest shows
      have pair : cursor.take [.term, .comparison] = _ := taken
      simp only [clause, pair, shows.peek_cons]
      exact agrees_qualifiedClause rfl _ _ behind
  | case2 raw index quoted offset name place rest =>
      obtain ⟨next, taken, behind⟩ := @QueryCursor.Shows.take cursor last
        [⟨.term raw index quoted, offset⟩, ⟨.relation name, place⟩] rest shows
      have pair : cursor.take [.term, .relation] = _ := taken
      have refused : cursor.take [.term, .comparison] = (none, cursor) := by
        refine shows.take_pair_of_ne (by decide) ?_
        rintro one two others ⟨⟩ - isSymbol
        cases isSymbol
      simp only [clause, refused, pair, shows.peek_cons]
      exact agrees_qualifiedClause rfl _ _ behind
  | case3 raw value quoted offset rest noSymbol noRelation =>
      have isTerm : term false cursor = .ok (value, cursor.advance) := by
        simp [term, shows.peek_cons, Token.kind, TokenData.kind, valueOf, TokenData.termValue?]
      rw [clause_of_bare, isTerm, shows.peek_cons]
      · exact .ok _ shows.advance
      · refine shows.take_pair_of_ne (by decide) ?_
        rintro one ⟨data, place⟩ others ⟨⟩ - isSymbol
        obtain ⟨symbol, rfl⟩ := TokenData.exists_eq_comparison isSymbol
        exact noSymbol _ _ _ rfl
      · refine shows.take_pair_of_ne (by decide) ?_
        rintro one ⟨data, place⟩ others ⟨⟩ - isRelation
        obtain ⟨name, rfl⟩ := TokenData.exists_eq_relation isRelation
        exact noRelation _ _ _ rfl
  | case4 tokens noSymbol noRelation noTerm =>
      have otherKind := shows.peek_kind_ne_term noTerm
      have refused {second : TokenKind} (noEnd : second ≠ .endOfInput)
          : cursor.take [.term, second] = (none, cursor) := by
        refine shows.take_pair_of_ne ⟨by decide, noEnd⟩ ?_
        rintro one two others rfl isTerm
        exact absurd isTerm (shows.peek_cons ▸ otherKind)
      have failed : term false cursor = .error (Parser.unexpected last .searchTerm tokens) := by
        simp [term, unexpected_eq shows]
      rw [clause_of_bare (refused (by decide)) (refused (by decide)), failed]
      exact .error _

-----------------------------------------------------------------------------------------
-- Operands and operators
-----------------------------------------------------------------------------------------

theorem agrees_operatorModifiers (shows : cursor.Shows last tokens) (operator : BooleanOperator)
    : Agrees last (operatorModifiers operator cursor)
        (Parser.operatorModifiers last operator tokens) := by
  fun_cases Parser.operatorModifiers last operator tokens with
  | case1 =>
      rw [operatorModifiers, if_pos ‹operator = .prox›]
      exact agrees_modifiers shows
  | case2 other offset rest =>
      rw [operatorModifiers, if_neg other, accept_of_eq (shows.peek_kind (by rfl)), shows.peek_cons]
      exact .error _
  | case3 tokens other none =>
      rw [operatorModifiers, if_neg other, accept_of_ne (shows.peek_kind_ne_slash none)]
      exact .ok _ shows

/-- Readers agree if what they read does, wherever they start. -/
def ReadersAgree (last : Token) (onCursor : CursorReader α) (onList : TokenReader α) : Prop :=
  ∀ {cursor tokens},
    cursor.Shows last tokens → Agrees last (onCursor.read cursor) (onList.read tokens)

section Operators

variable {onCursor : CursorReader QueryTree} {onList : TokenReader QueryTree} {left : QueryTree}

theorem operators_of_operator {operator : BooleanOperator} {word : String}
    (found : cursor.peek.data = .operator operator word)
    : operators onCursor left cursor
      = operatorModifiers operator cursor.advance >>= fun (read, behindModifiers) =>
          onCursor.read behindModifiers >>= fun (right, next) =>
            operators onCursor (.boolean operator read left right) next := by
  rw [operators]
  split
  · next here =>
      obtain ⟨rfl, rfl⟩ := TokenData.operator.inj (found.symm.trans here)
      split
      · next failed =>
          rw [failed]
          rfl
      · next modified =>
          rw [modified]
          dsimp only [bind, Except.bind]
          split
          · next failed => rw [failed]
          · next read => rw [read]
  · next none => exact absurd found (none _ _)

theorem operators_of_none (none : cursor.peek.kind ≠ .operator)
    : operators onCursor left cursor = .ok (left, cursor) := by
  rw [operators]
  split
  · next found => exact absurd (by rw [Token.kind, found]; rfl) none
  · rfl

/-- Operators are read alike with operands that are, by induction on the list's reader. -/
theorem agrees_operators (agree : ReadersAgree last onCursor onList)
    (shows : cursor.Shows last tokens)
    : Agrees last (operators onCursor left cursor)
        (Parser.operators last onList left tokens) := by
  fun_induction Parser.operators last onList left tokens generalizing cursor with
  | case1 _ _ _ _ _ _ failed =>
      rw [operators_of_operator shows.peek_data,
        (agrees_operatorModifiers shows.advance _).eq_error failed]
      exact .error _
  | case2 _ _ _ _ _ _ _ modified _ failed =>
      obtain ⟨behind, same, showsBehind⟩ :=
        (agrees_operatorModifiers shows.advance _).exists_of_ok modified
      rw [operators_of_operator shows.peek_data, same]
      simp only [bind, Except.bind, (agree showsBehind).eq_error failed]
      exact .error _
  | case3 _ _ _ _ _ _ _ modified _ _ found ih =>
      obtain ⟨behind, same, showsBehind⟩ :=
        (agrees_operatorModifiers shows.advance _).exists_of_ok modified
      obtain ⟨next, read, showsNext⟩ := (agree showsBehind).exists_of_ok found
      rw [operators_of_operator shows.peek_data, same]
      simp only [bind, Except.bind, read]
      exact ih showsNext
  | case4 _ _ none =>
      have noOperator : cursor.peek.kind ≠ .operator := by
        refine shows.peek_kind_ne (by decide) fun data offset rest isKind => ?_
        obtain ⟨operator, word, rfl⟩ := TokenData.exists_eq_operator isKind
        exact none operator word offset rest
      rw [operators_of_none noOperator]
      exact .ok _ shows

theorem agrees_operands (agree : ReadersAgree last onCursor onList)
    (shows : cursor.Shows last tokens)
    : Agrees last (operands onCursor cursor) (Parser.operands last onList tokens) := by
  unfold Parser.operands
  split
  · next failed =>
      simp only [operands, (agree shows).eq_error failed, bind, Except.bind]
      exact .error _
  · next found =>
      obtain ⟨next, read, behind⟩ := (agree shows).exists_of_ok found
      simp only [operands, read, bind, Except.bind]
      exact agrees_operators agree behind

end Operators

theorem agrees_closed {onCursor : Except ParseError (CursorReading QueryTree)}
    {onList : Except ParseError (Reading QueryTree)} (agrees : Agrees last onCursor onList)
    : Agrees last (closed onCursor) (Parser.closed last onList) := by
  fun_cases Parser.closed last onList with
  | case1 error =>
      rw [agrees.eq_error rfl]
      exact .error _
  | case2 tree offset rest =>
      obtain ⟨closing, read, shows⟩ := agrees.exists_of_ok rfl
      simp only [closed, read, bind, Except.bind]
      rw [accept_of_eq (shows.peek_kind (by rfl))]
      exact .ok _ shows.advance
  | case3 tree rest none =>
      obtain ⟨closing, read, shows⟩ := agrees.exists_of_ok rfl
      have noClosing : closing.peek.kind ≠ .closeParen := by
        refine shows.peek_kind_ne (by decide) fun data offset rest isKind => ?_
        obtain rfl := TokenData.eq_closeParen isKind
        exact none offset rest
      simp only [closed, read, bind, Except.bind]
      rw [accept_of_ne noClosing, ← unexpected_eq shows]
      exact .error _

theorem read_operand_of_openParen {depth : Nat} (opens : cursor.peek.kind = .openParen)
    : (operand depth).read cursor
      = if maxNesting ≤ depth then
          .error ⟨cursor.peek.offset, .nestedTooDeeply⟩
        else
          closed (operands (operand (depth + 1)) cursor.advance) := by
  rw [operand]
  dsimp only
  rw [accept_of_eq opens]
  rfl

theorem read_operand_of_ne {depth : Nat} (none : cursor.peek.kind ≠ .openParen)
    : (operand depth).read cursor = clause cursor := by
  rw [operand]
  dsimp only
  rw [accept_of_ne none]

theorem read_operand_of_other {nesting : Nat}
    (none : ∀ offset rest, tokens = ⟨.openParen, offset⟩ :: rest → False)
    : (Parser.operand last nesting).read tokens = Parser.clause last tokens := by
  cases nesting with
  | zero | succ =>
      rw [Parser.operand]
      dsimp only
      split
      · next offset rest => exact (none _ _ rfl).elim
      · rfl

/-- An operand without parentheses is a clause, however many may still be opened. -/
theorem agrees_operand_of_ne {depth nesting : Nat} (shows : cursor.Shows last tokens)
    (none : cursor.peek.kind ≠ .openParen)
    : Agrees last ((operand depth).read cursor) ((Parser.operand last nesting).read tokens) := by
  rw [read_operand_of_ne none, read_operand_of_other]
  · exact agrees_clause shows
  · rintro offset rest rfl
    exact none (shows.peek_kind rfl)

/-- An operand is read alike, by induction on how many parentheses may still be opened. -/
theorem agrees_operand {depth nesting : Nat} (whole : depth + nesting = maxNesting)
    : ReadersAgree last (operand depth) (Parser.operand last nesting) := by
  induction nesting generalizing depth with
  | zero =>
      intro cursor tokens shows
      by_cases opens : cursor.peek.kind = .openParen
      · obtain ⟨data, offset, rest, rfl, isKind⟩ := shows.exists_of_peek_kind opens (by decide)
        obtain rfl := TokenData.eq_openParen isKind
        rw [read_operand_of_openParen opens, if_pos (by omega), shows.peek_cons]
        exact .error _
      · exact agrees_operand_of_ne shows opens
  | succ nesting ih =>
      intro cursor tokens shows
      by_cases opens : cursor.peek.kind = .openParen
      · obtain ⟨data, offset, rest, rfl, isKind⟩ := shows.exists_of_peek_kind opens (by decide)
        obtain rfl := TokenData.eq_openParen isKind
        rw [read_operand_of_openParen opens, if_neg (by omega)]
        exact agrees_closed (agrees_operands (ih (by omega)) shows.advance)
      · exact agrees_operand_of_ne shows opens

-----------------------------------------------------------------------------------------
-- Queries
-----------------------------------------------------------------------------------------

theorem sortKeysBehind_of_ne {read : List SortKey} (none : cursor.peek.kind ≠ .term)
    : sortKeysBehind read cursor = .ok (read, cursor) := by
  rw [sortKeysBehind]
  split
  · rfl
  · next accepted =>
      rw [accept_of_ne none] at accepted
      cases accepted

theorem sortKeysBehind_of_term {read : List SortKey} (isTerm : cursor.peek.kind = .term)
    : sortKeysBehind read cursor
      = modifiers cursor.advance >>= fun (found, next) =>
          sortKeysBehind (read ++ [⟨nameOf cursor.peek, found⟩]) next := by
  rw [sortKeysBehind]
  split
  · next refused =>
      rw [accept_of_eq isTerm] at refused
      cases refused
  · next accepted =>
      rw [accept_of_eq isTerm] at accepted
      obtain ⟨same, rfl⟩ := Prod.mk.inj accepted
      obtain rfl := Option.some.inj same
      split
      · next failed =>
          rw [failed]
          rfl
      · next found =>
          rw [found]
          rfl

/-- Sort keys are read alike, by induction on the list's reader. -/
theorem agrees_sortKeysBehind (shows : cursor.Shows last tokens) (read : List SortKey)
    : Agrees last (sortKeysBehind read cursor)
        (precededBy read <$> Parser.sortKeys last tokens) := by
  fun_induction Parser.sortKeys last tokens generalizing cursor read with
  | case1 _ _ _ _ _ _ failed =>
      rw [sortKeysBehind_of_term (shows.peek_kind rfl),
        (agrees_modifiers shows.advance).eq_error failed]
      exact .error _
  | case2 _ _ _ _ _ _ _ found ih =>
      obtain ⟨next, same, behind⟩ := (agrees_modifiers shows.advance).exists_of_ok found
      rw [sortKeysBehind_of_term (shows.peek_kind rfl), same, shows.peek_cons,
        map_precededBy_cons]
      exact ih behind _
  | case3 _ none =>
      rw [sortKeysBehind_of_ne (shows.peek_kind_ne_term none), map_precededBy_ok]
      exact .ok _ shows

theorem agrees_sortKeys (shows : cursor.Shows last tokens)
    : Agrees last (sortKeysBehind [] cursor) (Parser.sortKeys last tokens) := by
  rw [← map_precededBy_nil (Parser.sortKeys last tokens)]
  exact agrees_sortKeysBehind shows []

theorem agrees_sortPart (shows : cursor.Shows last tokens)
    : Agrees last (sortPart cursor) (Parser.sortPart last tokens) := by
  fun_cases Parser.sortPart last tokens with
  | case1 word offset rest error failed =>
      rw [sortPart, accept_of_eq (shows.peek_kind (by rfl))]
      simp only [sortKeys, (agrees_sortKeys shows.advance).eq_error failed, bind, Except.bind]
      exact .error _
  | case2 word offset rest behind found =>
      obtain ⟨next, read, showsNext⟩ := (agrees_sortKeys shows.advance).exists_of_ok found
      rw [sortPart, accept_of_eq (shows.peek_kind (by rfl)), ← unexpected_eq showsNext]
      simp only [sortKeys, read, bind, Except.bind]
      exact .error _
  | case3 word offset rest keys behind someKey found =>
      obtain ⟨next, read, showsNext⟩ := (agrees_sortKeys shows.advance).exists_of_ok found
      rw [sortPart, accept_of_eq (shows.peek_kind (by rfl))]
      have notEmpty : keys.isEmpty = false := List.isEmpty_eq_false_iff.mpr someKey
      simp only [sortKeys, read, bind, Except.bind, notEmpty, Bool.false_eq_true, if_false]
      exact .ok _ showsNext
  | case4 _ none =>
      have noKeyword : cursor.peek.kind ≠ .sortBy := by
        refine shows.peek_kind_ne (by decide) fun data offset rest isKind => ?_
        obtain ⟨word, rfl⟩ := TokenData.exists_eq_sortBy isKind
        exact none word offset rest
      rw [sortPart, accept_of_ne noKeyword]
      exact .ok _ shows

theorem atEnd_iff (shows : cursor.Shows last tokens) : cursor.atEnd = true ↔ tokens = [] := by
  rw [TokenCursor.atEnd, decide_eq_true_iff, shows.peek]
  cases tokens with
  | nil => simp [Parser.next, shows.closes]
  | cons token rest => simp [Parser.next, shows.inside token List.mem_cons_self]

theorem query_of_nil (shows : cursor.Shows last [])
    : query cursor = .error ⟨last.offset, .emptyQuery⟩ := by
  simp only [query, (atEnd_iff shows).mpr rfl, if_true, shows.peek]
  rfl

theorem ended_eq (shows : cursor.Shows last tokens) (query : CqlQuery)
    : Parser.ended last query tokens
      = if cursor.atEnd then .ok query else .error (unexpected .endOfQuery cursor) := by
  cases tokens with
  | nil => rw [Parser.ended, if_pos shows.closes, if_pos ((atEnd_iff shows).mpr rfl)]
  | cons token rest =>
      rw [Parser.ended, if_neg (mt (atEnd_iff shows).mp (List.cons_ne_nil _ _)), unexpected,
        shows.peek_cons]

/-- A whole query is read alike. -/
theorem query_eq (shows : cursor.Shows last tokens) (some : tokens ≠ [])
    : query cursor = Parser.query last tokens := by
  have inside : cursor.atEnd = false := by
    simpa using mt (atEnd_iff shows).mp some
  have operands := agrees_operands (agrees_operand (Nat.zero_add maxNesting)) shows
  unfold Parser.query
  split
  · next failed =>
      simp [query, inside, operands.eq_error failed, bind, Except.bind]
  · next found =>
      obtain ⟨behindRoot, read, showsSort⟩ := operands.exists_of_ok found
      have sortPart := agrees_sortPart showsSort
      split
      · next failed =>
          simp [query, inside, read, sortPart.eq_error failed, bind, Except.bind]
      · next found =>
          obtain ⟨behindSort, readSort, showsEnd⟩ := sortPart.exists_of_ok found
          simp [query, inside, read, readSort, ended_eq showsEnd, bind, Except.bind]
          rfl

end CursorParser

-----------------------------------------------------------------------------------------
-- Rows of tokens
-----------------------------------------------------------------------------------------

namespace CqlQuery

/-- The first token of a row shows what stands in front of the row's first end. -/
theorem exists_shows_ofTokens {ends : tokens.getLast?.map Token.kind = some .endOfInput}
    : ∃ last,
        tokens.find? (·.kind = .endOfInput) = some last
        ∧ (QueryCursor.ofTokens tokens ends).Shows last (beforeEnd tokens) := by
  obtain ⟨final, isLast, isEnd⟩ := Option.map_eq_some_iff.mp ends
  have found : (tokens.find? (·.kind = .endOfInput)).isSome := by
    rw [List.find?_isSome]
    exact ⟨final, List.mem_of_getLast? isLast, decide_eq_true isEnd⟩
  obtain ⟨last, found⟩ := Option.isSome_iff_exists.mp found
  obtain ⟨closes, front, behind, parts, inside⟩ := List.find?_eq_some_iff_append.mp found
  have closes : last.kind = .endOfInput := of_decide_eq_true closes
  have inside : ∀ token ∈ front, token.kind ≠ .endOfInput := by simpa using inside
  have body : beforeEnd tokens = front := by
    rw [parts, beforeEnd, List.takeWhile_append_of_pos (by simpa using inside)]
    simp [closes]
  exact ⟨last, found, body ▸ inside, closes, behind, by rw [body]; exact parts⟩

/-- The query of a row of tokens that closes with an end is the one that is read off a cursor. -/
theorem ofTokens_eq_query (ends : tokens.getLast?.map Token.kind = some .endOfInput)
    : ofTokens tokens = CursorParser.query (QueryCursor.ofTokens tokens ends) := by
  obtain ⟨last, found, shows⟩ := @exists_shows_ofTokens tokens ends
  rw [ofTokens_of_find? found]
  split
  · next empty =>
      rw [List.isEmpty_iff.mp empty] at shows
      rw [CursorParser.query_of_nil shows]
  · next some => rw [CursorParser.query_eq shows (mt List.isEmpty_iff.mpr some)]

end CqlQuery

/-- The tokens of a text close with an end, so what holds of rows that do holds of all texts that
have tokens: their query is the one that is read off a cursor.
-/
theorem Vocabulary.exists_parse_eq_query {vocabulary : Vocabulary} {text : String}
    (scanned : vocabulary.tokens text = .ok tokens)
    : ∃ ends,
        vocabulary.parse text
          = (CursorParser.query (QueryCursor.ofTokens tokens ends)).mapError .parse := by
  have ends : tokens.getLast?.map Token.kind = some .endOfInput := by
    obtain ⟨body, last, rfl, -⟩ := isScanned_of_tokensFrom scanned
    simp [Token.kind, TokenData.kind]
  refine ⟨ends, ?_⟩
  rw [parse, scanned, ← CqlQuery.ofTokens_eq_query ends]
  rfl

end CqlGateway
