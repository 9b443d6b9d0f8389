import CqlGateway.Error
import CqlGateway.Proofs.Outcome
import CqlGateway.Proofs.Query.Acceptance
import CqlGateway.Proofs.Query.PlaceByPlace

/-! Tokens that are no query are refused at the first one that cannot continue any query. -/

namespace CqlGateway.CqlQuery

open Grammar

variable {tokens front : List Token}

/-- Tokens with a single end, which is the last of them. -/
def EndsOnce (tokens : List Token) : Prop :=
  ∃ body last,
    tokens = body ++ [last]
    ∧ last.kind = .endOfInput
    ∧ ∀ token ∈ body, token.kind ≠ .endOfInput

/-- The beginning of a query: some tokens that begin so are accepted. -/
def IsViable (front : List Token) : Prop :=
  ∃ tokens query, EndsOnce tokens ∧ front <+: tokens ∧ ofTokens tokens = .ok query

/-- Tokens that end once are read from place to place, the empty query too. -/
theorem ofTokens_follows {body : List Token} {last : Token} (ends : last.kind = .endOfInput)
    (noEnd : ∀ token ∈ body, token.kind ≠ .endOfInput)
    : Parser.FollowsAll last (.operand 0) body (ofTokens (body ++ [last])) := by
  rw [ofTokens_of_find? (find?_append ends noEnd), beforeEnd_append ends noEnd]
  cases body with
  | nil => exact ⟨last, rfl, rfl⟩
  | cons token others => exact Parser.query_follows ends

theorem ofTokens_accepts_iff {body : List Token} {last : Token} (ends : last.kind = .endOfInput)
    (noEnd : ∀ token ∈ body, token.kind ≠ .endOfInput)
    : (∃ query, ofTokens (body ++ [last]) = .ok query)
      ↔ (Place.operand 0).misfit? last body = none := by
  have follows := ofTokens_follows ends noEnd
  cases outcome : ofTokens (body ++ [last]) with
  | ok query =>
      rw [outcome] at follows
      exact ⟨fun _ => follows, fun _ => ⟨query, rfl⟩⟩
  | error error =>
      rw [outcome] at follows
      obtain ⟨found, stops, _⟩ := follows
      simp [stops]

/-- Tokens that lead to a place are viable, as a query can be completed from every place. -/
theorem isViable_of_after? {place : Place} (noEnd : ∀ token ∈ front, token.kind ≠ .endOfInput)
    (fits : (Place.operand 0).after? (front.map Token.data) = some place)
    : IsViable front := by
  obtain ⟨tail, noEnds, completed⟩ := place.canBeCompleted
  have inside : ∀ token ∈ front ++ tail, token.kind ≠ .endOfInput := by
    intro token member
    exact (List.mem_append.mp member).elim (noEnd token) (noEnds token)
  have accepted : (Place.operand 0).misfit? ⟨.endOfInput, 0⟩ (front ++ tail) = none := by
    rw [Place.misfit?_append fits]
    exact completed _
  obtain ⟨query, read⟩ := (ofTokens_accepts_iff rfl inside).mpr accepted
  exact ⟨front ++ tail ++ [⟨.endOfInput, 0⟩], query, ⟨front ++ tail, _, rfl, rfl, inside⟩,
    by simp [List.append_assoc], read⟩

/-- Nothing behind a token that cannot stand in its place makes up for it. -/
theorem not_isViable_of_step {place : Place} {found : Token} (notEnd : found.kind ≠ .endOfInput)
    (fits : (Place.operand 0).after? (front.map Token.data) = some place)
    (stuck : place.step found.data = none)
    : ¬ IsViable (front ++ [found]) := by
  rintro ⟨_, query, ⟨body, last, rfl, ends, noEnd⟩, begins, read⟩
  have accepted := (ofTokens_accepts_iff ends noEnd).mp ⟨query, read⟩
  have inBody : front ++ [found] <+: body := by
    rcases List.prefix_concat_iff.mp begins with whole | inside
    · obtain ⟨_, same⟩ := List.append_inj' whole rfl
      obtain rfl := List.singleton_inj.mp same
      exact absurd ends notEnd
    · exact inside
  obtain ⟨behind, rfl⟩ := inBody
  rw [List.append_assoc, Place.misfit?_append fits, List.singleton_append,
    Place.misfit?_cons_of_none stuck] at accepted
  cases accepted

/-- Where the query must go on, it cannot end. -/
theorem not_isViable_of_unfinished {place : Place} {last : Token} (ends : last.kind = .endOfInput)
    (fits : (Place.operand 0).after? (front.map Token.data) = some place)
    (unfinished : place.mayEnd = false)
    : ¬ IsViable (front ++ [last]) := by
  rintro ⟨_, query, ⟨body, final, rfl, isEnd, noEnd⟩, begins, read⟩
  have accepted := (ofTokens_accepts_iff isEnd noEnd).mp ⟨query, read⟩
  have same : front = body := by
    rcases List.prefix_concat_iff.mp begins with whole | inside
    · exact (List.append_inj' whole rfl).1
    · exact absurd ends (noEnd last (inside.subset (by simp)))
  subst same
  have stops := @Place.misfit?_append _ _ final [] _ fits
  rw [List.append_nil, accepted, Place.misfit?_nil, unfinished] at stops
  cases stops

/-- Tokens that are refused are refused at the first one that cannot continue any query: those in
front of it begin some query, and together with it they begin none.
-/
theorem ofTokens_fails_at_first_misfit {error : ParseError} (ends : EndsOnce tokens)
    (refused : ofTokens tokens = .error error)
    : (Error.parse error).code = "SYNTAX_ERROR"
      ∧ ∃ (place : Nat) (inside : place < tokens.length),
        tokens[place].offset = error.offset
        ∧ IsViable (tokens.take place)
        ∧ ¬ IsViable (tokens.take (place + 1)) := by
  obtain ⟨body, last, rfl, isEnd, noEnd⟩ := ends
  have follows := ofTokens_follows isEnd noEnd
  rw [refused] at follows
  obtain ⟨found, stops, offset⟩ := follows
  obtain ⟨front, reached, fits, stuck⟩ := Place.misfit?_eq_some stops
  have viable : ∃ behind, body ++ [last] = front ++ found :: behind ∧ IsViable front
      ∧ ¬ IsViable (front ++ [found]) := by
    rcases stuck with ⟨rfl, rfl, unfinished⟩ | ⟨behind, rfl, stuck⟩
    · exact ⟨[], rfl, isViable_of_after? noEnd fits,
        not_isViable_of_unfinished isEnd fits unfinished⟩
    · simp only [List.forall_mem_append, List.forall_mem_cons] at noEnd
      exact ⟨behind ++ [last], by simp, isViable_of_after? noEnd.1 fits,
        not_isViable_of_step noEnd.2.1 fits stuck⟩
  obtain ⟨behind, parts, begins, misfit⟩ := viable
  refine ⟨rfl, front.length, by simp [parts], by simpa [parts] using offset, ?_, ?_⟩
  · rw [parts, List.take_left]
    exact begins
  · rw [parts, List.append_cons, List.take_left' (by simp)]
    exact misfit

/-- Two groups and, behind modifiers that are allowed, one on an operator other than `prox`. -/
def modifierOnAnd : List Token :=
  [
    ⟨.openParen, 0⟩,
    ⟨.term "a" "a" false, 1⟩,
    ⟨.operator .prox "prox", 3⟩,
    ⟨.slash, 7⟩,
    ⟨.term "unit" "unit" false, 8⟩,
    ⟨.openParen, 13⟩,
    ⟨.term "title" "title" false, 14⟩,
    ⟨.relation "any", 20⟩,
    ⟨.operator .and "and", 24⟩,
    ⟨.operator .and "and", 28⟩,
    ⟨.slash, 31⟩,
    ⟨.term "x" "x" false, 32⟩,
    ⟨.term "b" "b" false, 34⟩,
    ⟨.closeParen, 35⟩,
    ⟨.closeParen, 36⟩,
    ⟨.endOfInput, 37⟩
  ]

theorem ofTokens_fails_at_first_misfit_modifierOnAnd
    : EndsOnce modifierOnAnd
      ∧ ofTokens modifierOnAnd = .error ⟨31, .modifiersOn .and⟩
      ∧ ∃ (place : Nat) (inside : place < modifierOnAnd.length),
        modifierOnAnd[place].offset = 31
        ∧ IsViable (modifierOnAnd.take place)
        ∧ ¬ IsViable (modifierOnAnd.take (place + 1)) := by
  have ends : EndsOnce modifierOnAnd :=
    ⟨modifierOnAnd.dropLast, ⟨.endOfInput, 37⟩, rfl, rfl, by decide⟩
  have refused : ofTokens modifierOnAnd = .error ⟨31, .modifiersOn .and⟩ :=
    Outcome.error?_eq_some.mp (by decide +kernel)
  exact ⟨ends, refused, (ofTokens_fails_at_first_misfit ends refused).2⟩

end CqlGateway.CqlQuery
