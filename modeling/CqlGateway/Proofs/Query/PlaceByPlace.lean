import CqlGateway.Proofs.Query.Completeness
import CqlGateway.Proofs.Query.Place
import CqlGateway.Proofs.Query.Soundness

/-! The parser goes from place to place as the tokens do. It reads on as long as they fit, and fails
at the first one that does not.
-/

namespace CqlGateway.Parser

open Grammar

variable {last : Token} {tokens rest : List Token} {place first second third : Place}
  {α β : Type} {outcome : Except ParseError (Reading α)}

/-- A reading leads from a place to another one, or stops at the misfit. -/
def Follows (last : Token) (first second : Place) (tokens : List Token)
    : Except ParseError (Reading α) → Prop
  | .ok (_, rest) => first.misfit? last tokens = second.misfit? last rest
  | .error error => ∃ found, first.misfit? last tokens = some found ∧ found.offset = error.offset

/-- What was read before a reading does not count but for the place that it led to. -/
theorem Follows.of_eq (led : first.misfit? last tokens = second.misfit? last rest)
    (follows : Follows last second third rest outcome)
    : Follows last first third tokens outcome := by
  cases outcome with
  | ok reading => exact led.trans follows
  | error error =>
      obtain ⟨found, stops, offset⟩ := follows
      exact ⟨found, led.trans stops, offset⟩

theorem Follows.of_step {token : Token} (second : Place)
    (fits : first.step token.data = some second)
    (follows : Follows last second third rest outcome)
    : Follows last first third (token :: rest) outcome :=
  follows.of_eq (Place.misfit?_cons_of_step fits)

theorem Follows.map {change : Reading α → Reading β}
    (keeps : ∀ reading, (change reading).2 = reading.2)
    (follows : Follows last first second tokens outcome)
    : Follows last first second tokens (change <$> outcome) := by
  cases outcome with
  | ok reading =>
      have same := keeps reading
      simpa only [Follows, Functor.map, Except.map, same] using follows
  | error error => exact follows

/-- Where the next token cannot stand and the query cannot end, the misfit is next. -/
theorem follows_unexpected (expected : Expectation)
    (unfinished : tokens = [] → first.mayEnd = false)
    (stuck : ∀ token ∈ tokens.head?, first.step token.data = none)
    : Follows last first second tokens
        (.error (unexpected last expected tokens) : Except ParseError (Reading α)) := by
  cases tokens with
  | nil => exact ⟨last, by rw [Place.misfit?_nil, unfinished rfl]; rfl, rfl⟩
  | cons token others => exact ⟨token, Place.misfit?_cons_of_none (stuck token (by simp)), rfl⟩

-----------------------------------------------------------------------------------------
-- Modifiers and clauses
-----------------------------------------------------------------------------------------

theorem modifiers_avoids {read : List Modifier} (found : modifiers last tokens = .ok (read, rest))
    : Avoids [.slash] rest := by
  fun_induction modifiers last tokens generalizing read rest
  case case1 ih =>
    obtain ⟨reading, later, same⟩ := map_eq_ok found
    obtain ⟨rfl, rfl⟩ := Prod.mk.inj same
    exact ih later
  case case2 => cases found
  case case3 ih =>
    obtain ⟨reading, later, same⟩ := map_eq_ok found
    obtain ⟨rfl, rfl⟩ := Prod.mk.inj same
    exact ih later
  case case4 => cases found
  case case5 tokens _ _ _ noSlash =>
    obtain ⟨rfl, rfl⟩ := Prod.mk.inj (Except.ok.inj found)
    cases tokens with
    | nil => exact avoids_nil _
    | cons token others =>
        obtain ⟨data, offset⟩ := token
        cases data with
        | slash => exact absurd rfl (noSlash offset others)
        | _ => simp [Token.kind, TokenData.kind]

/-- Modifiers are read from place to place. Behind a name that is not compared one goes on as behind
any modifier.
-/
theorem modifiers_follows (owner : ModifierOwner)
    : Follows last (.modifiers owner) (.modifiers owner) tokens (modifiers last tokens) := by
  fun_induction modifiers last tokens
  case case1 ih =>
    refine .of_step (.modifierName owner) rfl ?_
    refine .of_step (.namedModifier owner) rfl ?_
    refine .of_step (.modifierValue owner) rfl ?_
    refine .of_step (.modifiers owner) rfl ?_
    exact ih.map fun _ => rfl
  case case2 others noValue =>
    refine .of_step (.modifierName owner) rfl ?_
    refine .of_step (.namedModifier owner) rfl ?_
    refine .of_step (.modifierValue owner) rfl ?_
    refine follows_unexpected .modifierValue (fun _ => rfl) ?_
    rintro ⟨data, offset⟩ next
    cases data with
    | term raw value quoted =>
        obtain ⟨behind, rfl⟩ := List.head?_eq_some_iff.mp next
        exact absurd rfl (noValue raw value quoted offset behind)
    | _ => rfl
  case case3 others _ noComparison ih =>
    refine .of_step (.modifierName owner) rfl ?_
    refine .of_step (.namedModifier owner) rfl ?_
    refine .of_eq (Place.misfit?_congr (fun _ => ?_) ?_) (ih.map fun _ => rfl)
    · cases owner <;> rfl
    · rintro ⟨data, offset⟩ next
      cases data with
      | comparison symbol =>
          obtain ⟨behind, rfl⟩ := List.head?_eq_some_iff.mp next
          exact absurd rfl (noComparison symbol offset behind)
      | _ => rfl
  case case4 others _ _ noName =>
    refine .of_step (.modifierName owner) rfl ?_
    refine follows_unexpected .modifierName (fun _ => rfl) ?_
    rintro ⟨data, offset⟩ next
    cases data with
    | term raw value quoted =>
        obtain ⟨behind, rfl⟩ := List.head?_eq_some_iff.mp next
        exact absurd rfl (noName raw value quoted offset behind)
    | _ => rfl
  case case5 => exact rfl

/-- Where no modifier comes, the text of a clause must. -/
theorem step_relation_of_avoids {token : Token} (nesting : Nat)
    (noSlash : Avoids [.slash] (token :: rest))
    : (Place.modifiers (.relation nesting)).step token.data
      = if (textAfterRelation? token.data).isSome then some (.operandEnd nesting) else none := by
  obtain ⟨data, offset⟩ := token
  cases data with
  | slash => simp [Token.kind, TokenData.kind] at noSlash
  | _ => rfl

/-- The rest of a clause leads to the end of the operand, by way of its modifiers. -/
theorem qualifiedClause_follows (index : String) (relation : Relation) (offset nesting : Nat)
    : Follows last (.modifiers (.relation nesting)) (.operandEnd nesting) tokens
        (qualifiedClause last index relation offset tokens) := by
  have follows := @modifiers_follows last tokens (.relation nesting)
  fun_cases qualifiedClause last index relation offset tokens with
  | case1 error failed =>
      rw [failed] at follows
      exact follows
  | case2 read found =>
      rw [found] at follows
      exact .of_eq follows (follows_unexpected .searchTermAfterRelation (fun _ => rfl) (by simp))
  | case3 read token others noText found =>
      rw [found] at follows
      refine .of_eq follows (follows_unexpected .searchTermAfterRelation (fun _ => rfl) ?_)
      intro next isNext
      obtain rfl := Option.some.inj isNext
      rw [step_relation_of_avoids nesting (modifiers_avoids found), noText]
      rfl
  | case4 read token others term text found =>
      rw [found] at follows
      refine .of_eq follows (Place.misfit?_cons_of_step ?_)
      rw [step_relation_of_avoids nesting (modifiers_avoids found), text]
      rfl

/-- A clause leads from the beginning of an operand to its end, unless a parenthesis comes next. -/
theorem clause_follows (nesting : Nat) (noParen : Avoids [.openParen] tokens)
    : Follows last (.operand nesting) (.operandEnd nesting) tokens (clause last tokens) := by
  fun_cases clause last tokens with
  | case1 | case2 =>
      refine .of_step (.leadingTerm nesting) rfl ?_
      refine .of_step (.modifiers (.relation nesting)) rfl ?_
      exact qualifiedClause_follows ..
  | case3 raw value quoted offset others noComparison noRelation =>
      refine .of_step (.leadingTerm nesting) rfl ?_
      refine Place.misfit?_congr (fun _ => ?_) ?_
      · cases nesting <;> rfl
      · rintro ⟨data, offset⟩ next
        obtain ⟨behind, rfl⟩ := List.head?_eq_some_iff.mp next
        cases data with
        | comparison symbol => exact absurd rfl (noComparison symbol offset behind)
        | relation name => exact absurd rfl (noRelation name offset behind)
        | _ => rfl
  | case4 tokens _ _ noTerm =>
      refine follows_unexpected .searchTerm (fun _ => rfl) ?_
      rintro ⟨data, offset⟩ next
      obtain ⟨behind, rfl⟩ := List.head?_eq_some_iff.mp next
      cases data with
      | term raw value quoted => exact absurd rfl (noTerm raw value quoted offset behind)
      | openParen => simp [Token.kind, TokenData.kind] at noParen
      | _ => rfl

-----------------------------------------------------------------------------------------
-- Operands and operators
-----------------------------------------------------------------------------------------

/-- Where one comes to by an operator. -/
def operatorPlace (operator : BooleanOperator) (nesting : Nat) : Place :=
  if operator = .prox then .modifiers (.proximity nesting) else .operand nesting

theorem step_operator (operator : BooleanOperator) (word : String) (nesting : Nat)
    : (Place.operandEnd nesting).step (.operator operator word)
      = some (operatorPlace operator nesting) := by
  cases nesting with
  | zero | succ => rfl

/-- What may stand between an operator and its right operand leads to the operand. -/
theorem operatorModifiers_follows (operator : BooleanOperator) (nesting : Nat)
    : Follows last (operatorPlace operator nesting) (.operand nesting) tokens
        (operatorModifiers last operator tokens) := by
  unfold operatorModifiers operatorPlace
  split
  · have follows := @modifiers_follows last tokens (.proximity nesting)
    cases found : modifiers last tokens with
    | error error =>
        rw [found] at follows
        exact follows
    | ok reading =>
        rw [found] at follows
        have noSlash := modifiers_avoids found
        refine follows.trans (Place.misfit?_congr (fun _ => rfl) ?_)
        intro token next
        have other := noSlash token next
        obtain ⟨data, offset⟩ := token
        cases data with
        | slash => simp [Token.kind, TokenData.kind] at other
        | _ => rfl
  · split
    · exact ⟨_, Place.misfit?_cons_of_none rfl, rfl⟩
    · exact rfl

theorem operators_avoids {reader : TokenReader QueryTree} {left tree : QueryTree}
    (found : operators last reader left tokens = .ok (tree, rest))
    : Avoids [.operator] rest := by
  fun_induction operators last reader left tokens with
  | case1 => cases found
  | case2 => cases found
  | case3 _ _ _ _ _ _ _ _ _ _ _ ih => exact ih found
  | case4 _ tokens noOperator =>
      obtain ⟨rfl, rfl⟩ := Prod.mk.inj (Except.ok.inj found)
      rintro ⟨data, offset⟩ next
      obtain ⟨behind, rfl⟩ := List.head?_eq_some_iff.mp next
      cases data with
      | operator operator word => exact absurd rfl (noOperator operator word offset behind)
      | _ => simp [Token.kind, TokenData.kind]

/-- A reader of operands leads from where an operand must come to where it has ended. -/
def FollowsOperands (last : Token) (nesting : Nat) (reader : TokenReader QueryTree) : Prop :=
  ∀ tokens, Follows last (.operand nesting) (.operandEnd nesting) tokens (reader.read tokens)

/-- Operators and operands lead from the end of an operand to the end of the last one. -/
theorem operators_follows {reader : TokenReader QueryTree} {nesting : Nat}
    (each : FollowsOperands last nesting reader) (left : QueryTree)
    : Follows last (.operandEnd nesting) (.operandEnd nesting) tokens
        (operators last reader left tokens) := by
  fun_induction operators last reader left tokens with
  | case1 left operator word offset others error failed =>
      have follows := @operatorModifiers_follows last others operator nesting
      rw [failed] at follows
      exact .of_step _ (step_operator operator word nesting) follows
  | case2 left operator word offset others read behind modified error failed =>
      have follows := @operatorModifiers_follows last others operator nesting
      rw [modified] at follows
      have operand := each behind
      rw [failed] at operand
      exact .of_step _ (step_operator operator word nesting) (.of_eq follows operand)
  | case3 left operator word offset others read behind modified right afterOperand found ih =>
      have follows := @operatorModifiers_follows last others operator nesting
      rw [modified] at follows
      have operand := each behind
      rw [found] at operand
      exact .of_step _ (step_operator operator word nesting)
        (.of_eq follows (.of_eq operand ih))
  | case4 => exact rfl

theorem operands_follows {reader : TokenReader QueryTree} {nesting : Nat}
    (each : FollowsOperands last nesting reader)
    : Follows last (.operand nesting) (.operandEnd nesting) tokens
        (operands last reader tokens) := by
  have follows := each tokens
  unfold operands
  split
  · next failed =>
      rw [failed] at follows
      exact follows
  · next left behind found =>
      rw [found] at follows
      exact .of_eq follows (operators_follows each left)

theorem operands_avoids {reader : TokenReader QueryTree} {tree : QueryTree}
    (found : operands last reader tokens = .ok (tree, rest))
    : Avoids [.operator] rest := by
  unfold operands at found
  split at found
  · cases found
  · exact operators_avoids found

/-- Inside parentheses nothing but the closing one can stand behind the operands. -/
theorem closed_follows {nesting : Nat} {outcome : Except ParseError (Reading QueryTree)}
    (follows : Follows last (.operand (nesting + 1)) (.operandEnd (nesting + 1)) tokens outcome)
    (stops : ∀ {tree rest}, outcome = .ok (tree, rest) → Avoids [.operator] rest)
    : Follows last (.operand (nesting + 1)) (.operandEnd nesting) tokens
        (closed last outcome) := by
  unfold closed
  split
  · exact follows
  · exact follows.trans (Place.misfit?_cons_of_step rfl)
  · next tree behind noParen =>
      refine .of_eq follows (follows_unexpected .closeParen (fun _ => rfl) ?_)
      intro token next
      have noOperator := stops rfl token next
      obtain ⟨others, rfl⟩ := List.head?_eq_some_iff.mp next
      obtain ⟨data, offset⟩ := token
      cases data with
      | closeParen => exact absurd rfl (noParen offset others)
      | operator => simp [Token.kind, TokenData.kind] at noOperator
      | _ => rfl

theorem avoids_openParen
    (noParen : ∀ offset behind, tokens = ⟨.openParen, offset⟩ :: behind → False)
    : Avoids [.openParen] tokens := by
  rintro ⟨data, offset⟩ next
  obtain ⟨behind, rfl⟩ := List.head?_eq_some_iff.mp next
  cases data with
  | openParen => exact absurd rfl (noParen offset behind)
  | _ => simp [Token.kind, TokenData.kind]

/-- An operand leads from its beginning to its end, by induction on the parentheses that are left:
they and the open ones are as many as may be nested.
-/
theorem operand_follows (left nesting : Nat) (bound : nesting + left = maxNesting)
    : FollowsOperands last nesting (operand last left) := by
  induction left generalizing nesting with
  | zero =>
      intro tokens
      simp only [operand]
      split
      · refine ⟨_, Place.misfit?_cons_of_none ?_, rfl⟩
        exact if_neg (by omega)
      · next noParen => exact clause_follows nesting (avoids_openParen noParen)
  | succ left ih =>
      intro tokens
      simp only [operand]
      split
      · refine .of_step (.operand (nesting + 1)) (if_pos (by omega)) ?_
        exact closed_follows (operands_follows (ih (nesting + 1) (by omega))) operands_avoids
      · next noParen => exact clause_follows nesting (avoids_openParen noParen)

-----------------------------------------------------------------------------------------
-- Queries
-----------------------------------------------------------------------------------------

/-- Behind sort keys stands neither another key nor a modifier. -/
theorem sortKeys_avoids {keys : List SortKey} (noSlash : Avoids [.slash] tokens)
    (found : sortKeys last tokens = .ok (keys, rest))
    : Avoids [.term, .slash] rest := by
  fun_induction sortKeys last tokens generalizing keys rest with
  | case1 => cases found
  | case2 _ _ _ _ _ _ _ modified ih =>
      obtain ⟨reading, later, same⟩ := map_eq_ok found
      obtain ⟨rfl, rfl⟩ := Prod.mk.inj same
      exact ih (modifiers_avoids modified) later
  | case3 tokens noTerm =>
      obtain ⟨rfl, rfl⟩ := Prod.mk.inj (Except.ok.inj found)
      rintro ⟨data, offset⟩ next
      have other := noSlash _ next
      obtain ⟨behind, rfl⟩ := List.head?_eq_some_iff.mp next
      cases data with
      | term raw value quoted => exact absurd rfl (noTerm raw value quoted offset behind)
      | slash => simp [Token.kind, TokenData.kind] at other
      | _ => simp [Token.kind, TokenData.kind]

/-- Behind a sort key one may end or go on with another one, by the recursion over the keys. -/
theorem sortKeys_follows
    : Follows last (.modifiers .sortKey) (.modifiers .sortKey) tokens (sortKeys last tokens) := by
  fun_induction sortKeys last tokens with
  | case1 raw index quoted offset others error failed =>
      have follows := @modifiers_follows last others .sortKey
      rw [failed] at follows
      exact .of_step (.modifiers .sortKey) rfl follows
  | case2 raw index quoted offset others read behind found ih =>
      have follows := @modifiers_follows last others .sortKey
      rw [found] at follows
      refine .of_step (.modifiers .sortKey) rfl (.of_eq follows ?_)
      exact ih.map fun _ => rfl
  | case3 => exact rfl

/-- A reading of a sort part that leads to a place where the query may end and nothing else can
stand.
-/
def FollowsToEnd (last : Token) (first : Place) (tokens : List Token)
    (outcome : Except ParseError (Reading (Option (List SortKey))))
    : Prop :=
  ∃ place : Place,
    place.mayEnd = true
    ∧ Follows last first place tokens outcome
    ∧ ∀ {sort rest}, outcome = .ok (sort, rest) → ∀ token ∈ rest.head?, place.step token.data = none

/-- A term behind the sort keyword is the first of the keys. -/
theorem sortKeys_ne_nil (term : TermToken) {keys : List SortKey}
    (found : sortKeys last (term.token :: tokens) = .ok (keys, rest))
    : keys ≠ [] := by
  rintro rfl
  obtain ⟨phrases, parts, same⟩ := sortKeys_eq_ok found
  obtain rfl := List.map_eq_nil_iff.mp same.symm
  have noTerm := sortKeys_avoids (by simp [TermToken.token, Token.kind, TokenData.kind]) found
  rw [List.flatMap_nil, List.nil_append] at parts
  rw [← parts] at noTerm
  simp [TermToken.token, Token.kind, TokenData.kind] at noTerm

/-- The sort keyword needs a key behind it. -/
theorem sortPart_follows_of_noKey (word : String) (offset : Nat) (noKey : Avoids [.term] tokens)
    : FollowsToEnd last (.operandEnd 0) (⟨.sortBy word, offset⟩ :: tokens)
        (sortPart last (⟨.sortBy word, offset⟩ :: tokens)) := by
  rw [sortPart, sortKeys_of_avoids noKey]
  refine ⟨.modifiers .sortKey, rfl, .of_step .sortBegin rfl ?_, ?_⟩
  · refine follows_unexpected .sortKey (fun _ => rfl) ?_
    rintro ⟨data, offset⟩ next
    have noTerm := noKey _ next
    cases data with
    | term => simp [Token.kind, TokenData.kind] at noTerm
    | _ => rfl
  · intro sort rest succeeded
    cases succeeded

/-- With a key behind it, the sort keyword leads to where further keys may come. -/
theorem sortPart_follows_of_key (word : String) (offset : Nat) (term : TermToken)
    : FollowsToEnd last (.operandEnd 0) (⟨.sortBy word, offset⟩ :: term.token :: tokens)
        (sortPart last (⟨.sortBy word, offset⟩ :: term.token :: tokens)) := by
  have first : Place.sortBegin.misfit? last (term.token :: tokens)
      = (Place.modifiers .sortKey).misfit? last (term.token :: tokens) := by
    rfl
  have follows := @sortKeys_follows last (term.token :: tokens)
  rw [sortPart]
  cases found : sortKeys last (term.token :: tokens) with
  | error error =>
      rw [found] at follows
      exact ⟨.modifiers .sortKey, rfl, .of_step .sortBegin rfl (.of_eq first follows), by simp⟩
  | ok reading =>
      obtain ⟨keys, rest⟩ := reading
      rw [found] at follows
      have noSlash : Avoids [.slash] (term.token :: tokens) := by
        simp [TermToken.token, Token.kind, TokenData.kind]
      have stops := sortKeys_avoids noSlash found
      cases keys with
      | nil => exact absurd rfl (sortKeys_ne_nil term found)
      | cons key keys =>
          refine ⟨.modifiers .sortKey, rfl, .of_step .sortBegin rfl (first.trans follows), ?_⟩
          intro sort behind same token next
          obtain ⟨rfl, rfl⟩ := Prod.mk.inj (Except.ok.inj same)
          have other := stops token next
          obtain ⟨data, offset⟩ := token
          cases data with
          | term | slash => simp [Token.kind, TokenData.kind] at other
          | _ => rfl

theorem sortPart_follows_of_sortBy (word : String) (offset : Nat)
    : FollowsToEnd last (.operandEnd 0) (⟨.sortBy word, offset⟩ :: tokens)
        (sortPart last (⟨.sortBy word, offset⟩ :: tokens)) := by
  cases tokens with
  | nil => exact sortPart_follows_of_noKey word offset (avoids_nil _)
  | cons token others =>
      obtain ⟨data, place⟩ := token
      cases data with
      | term raw index quoted =>
          exact sortPart_follows_of_key word offset ⟨raw, index, quoted, place⟩
      | _ => exact sortPart_follows_of_noKey word offset (by simp [Token.kind, TokenData.kind])

/-- Behind the operands, a sort part leads to a place where the query may end, and no other token
can stand there.
-/
theorem sortPart_follows (noOperator : Avoids [.operator] tokens)
    : FollowsToEnd last (.operandEnd 0) tokens (sortPart last tokens) := by
  cases tokens with
  | nil => exact ⟨.operandEnd 0, rfl, rfl, by simp [sortPart]⟩
  | cons token others =>
      obtain ⟨data, offset⟩ := token
      cases data with
      | sortBy word => exact sortPart_follows_of_sortBy word offset
      | operator => simp [Token.kind, TokenData.kind] at noOperator
      | _ =>
          refine ⟨.operandEnd 0, rfl, rfl, ?_⟩
          intro sort rest found token next
          obtain ⟨rfl, rfl⟩ := Prod.mk.inj (Except.ok.inj found)
          obtain rfl := Option.some.inj next
          rfl

/-- A query is read where no token is a misfit, or else the reading fails at the misfit. -/
def FollowsAll (last : Token) (first : Place) (tokens : List Token)
    : Except ParseError CqlQuery → Prop
  | .ok _ => first.misfit? last tokens = none
  | .error error => ∃ found, first.misfit? last tokens = some found ∧ found.offset = error.offset

theorem FollowsAll.of_eq {outcome : Except ParseError CqlQuery}
    (led : first.misfit? last tokens = second.misfit? last rest)
    (follows : FollowsAll last second rest outcome)
    : FollowsAll last first tokens outcome := by
  cases outcome with
  | ok query => exact led.trans follows
  | error error =>
      obtain ⟨found, stops, offset⟩ := follows
      exact ⟨found, led.trans stops, offset⟩

theorem ended_follows {query : CqlQuery} (ends : last.kind = .endOfInput)
    (finished : place.mayEnd = true)
    (stuck : ∀ token ∈ tokens.head?, place.step token.data = none)
    : FollowsAll last place tokens (ended last query tokens) := by
  cases tokens with
  | nil =>
      rw [ended, if_pos ends]
      exact Place.misfit?_nil.trans (if_pos finished)
  | cons token others => exact ⟨token, Place.misfit?_cons_of_none (stuck token (by simp)), rfl⟩

/-- The parser starts where an operand must come and follows the tokens to the end. -/
theorem query_follows (ends : last.kind = .endOfInput)
    : FollowsAll last (.operand 0) tokens (query last tokens) := by
  have each : FollowsOperands last 0 (operand last maxNesting) :=
    operand_follows maxNesting 0 (Nat.zero_add maxNesting)
  have root := @operands_follows last tokens _ _ each
  fun_cases query last tokens with
  | case1 error failed =>
      rw [failed] at root
      exact root
  | case2 tree behind found error failed =>
      rw [found] at root
      obtain ⟨place, finished, sorted, stuck⟩ := @sortPart_follows last _ (operands_avoids found)
      rw [failed] at sorted
      exact .of_eq root sorted
  | case3 tree behind found sort rest part =>
      rw [found] at root
      obtain ⟨place, finished, sorted, stuck⟩ := @sortPart_follows last _ (operands_avoids found)
      rw [part] at sorted
      exact .of_eq root (.of_eq sorted (ended_follows ends finished (stuck part)))

end CqlGateway.Parser
