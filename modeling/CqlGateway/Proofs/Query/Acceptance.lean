import CqlGateway.Proofs.Query.Completeness
import CqlGateway.Proofs.Query.Soundness
import CqlGateway.Proofs.Query.Unambiguity

/-! The parser accepts exactly what has a derivation, and gives the query that is derived. Nothing
behind the first end is looked at.
-/

namespace CqlGateway.CqlQuery

open Grammar

variable {tokens : List Token} {last : Token}

/-- The tokens in front of the first end. -/
def beforeEnd (tokens : List Token) : List Token :=
  tokens.takeWhile (·.kind ≠ .endOfInput)

/-- The tokens up to the first end, and the end itself. -/
def untilEnd : List Token → List Token
  | [] => []
  | token :: rest => if token.kind = .endOfInput then [token] else token :: untilEnd rest

theorem beforeEnd_untilEnd (tokens : List Token)
    : beforeEnd (untilEnd tokens) = beforeEnd tokens := by
  induction tokens with
  | nil => rfl
  | cons token rest ih =>
      unfold untilEnd
      split
      · next ends => simp [beforeEnd, ends]
      · next inside => simpa [beforeEnd, inside] using ih

theorem find?_untilEnd (tokens : List Token)
    : (untilEnd tokens).find? (·.kind = .endOfInput) = tokens.find? (·.kind = .endOfInput) := by
  induction tokens with
  | nil => rfl
  | cons token rest ih =>
      unfold untilEnd
      split
      · next ends => simp [ends]
      · next inside => simpa [inside] using ih

section Single

variable {body : List Token}

theorem beforeEnd_append (ends : last.kind = .endOfInput)
    (noEnd : ∀ token ∈ body, token.kind ≠ .endOfInput)
    : beforeEnd (body ++ [last]) = body := by
  rw [beforeEnd, List.takeWhile_append_of_pos (by simpa using noEnd)]
  simp [ends]

theorem find?_append (ends : last.kind = .endOfInput)
    (noEnd : ∀ token ∈ body, token.kind ≠ .endOfInput)
    : (body ++ [last]).find? (·.kind = .endOfInput) = some last := by
  have none : body.find? (·.kind = .endOfInput) = none := by
    simpa [List.find?_eq_none] using noEnd
  rw [List.find?_append, none]
  simp [ends]

end Single

/-- Tokens with an end are read up to it. -/
theorem ofTokens_of_find? (found : tokens.find? (·.kind = .endOfInput) = some last)
    : ofTokens tokens
      = if (beforeEnd tokens).isEmpty then
          .error ⟨last.offset, .emptyQuery⟩
        else
          Parser.query last (beforeEnd tokens) := by
  simp only [ofTokens, found]
  rfl

/-- Tokens that are the same up to the first end are read as the same. -/
theorem ofTokens_congr {other : List Token}
    (found : tokens.find? (·.kind = .endOfInput) = some last)
    (same : untilEnd other = untilEnd tokens)
    : ofTokens other = ofTokens tokens := by
  have foundOther : other.find? (·.kind = .endOfInput) = some last := by
    rw [← find?_untilEnd, same, find?_untilEnd, found]
  have sameBefore : beforeEnd other = beforeEnd tokens := by
    rw [← beforeEnd_untilEnd, same, beforeEnd_untilEnd]
  rw [ofTokens_of_find? foundOther, ofTokens_of_find? found, sameBefore]

/-- Every derivation begins with an operand, which has a token. -/
theorem derivation_tokens_ne_nil (derivation : Derivation) : derivation.tokens ≠ [] := by
  obtain ⟨first, others, sort⟩ := derivation
  cases first with
  | clause phrase =>
      obtain ⟨term, rest, parts⟩ := phrase.head
      simp [Derivation.tokens, Operand.tokens, parts]
  | group => simp [Derivation.tokens, Operand.tokens]

/-- Tokens with an end are accepted if those in front of it have a derivation. -/
theorem ofTokens_eq_ok_iff (found : tokens.find? (·.kind = .endOfInput) = some last)
    {query : CqlQuery}
    : ofTokens tokens = .ok query
      ↔ ∃ derivation : Derivation,
        derivation.tokens = beforeEnd tokens
        ∧ derivation.nesting ≤ maxNesting
        ∧ derivation.query = query := by
  have ends : last.kind = .endOfInput := by
    simpa using List.find?_some found
  rw [ofTokens_of_find? found]
  constructor
  · intro accepted
    split at accepted
    · cases accepted
    · exact Parser.query_eq_ok accepted
  · rintro ⟨derivation, parts, bound, rfl⟩
    have some : ¬ (beforeEnd tokens).isEmpty = true := by
      rw [List.isEmpty_iff, ← parts]
      exact derivation_tokens_ne_nil derivation
    rw [if_neg some, ← parts]
    exact Parser.query_tokens derivation bound ends

/-- Tokens with a single end are accepted if those in front of it have a derivation. -/
theorem ofTokens_append_eq_ok_iff {body : List Token} (ends : last.kind = .endOfInput)
    (noEnd : ∀ token ∈ body, token.kind ≠ .endOfInput) {query : CqlQuery}
    : ofTokens (body ++ [last]) = .ok query
      ↔ ∃ derivation : Derivation,
        derivation.tokens = body
        ∧ derivation.nesting ≤ maxNesting
        ∧ derivation.query = query := by
  rw [ofTokens_eq_ok_iff (find?_append ends noEnd), beforeEnd_append ends noEnd]

/-- Tokens that end with an end are read up to the first one alone. They are accepted if those in
front of it have a derivation whose parentheses are not nested too deeply, and as the query that it
derives; and no tokens have two derivations.
-/
theorem ofTokens_accepts_derivations (tokens : List Token)
    (ends : tokens.getLast?.map Token.kind = some .endOfInput)
    : (∀ other, untilEnd other = untilEnd tokens → ofTokens other = ofTokens tokens)
      ∧ (∀ query,
        ofTokens tokens = .ok query
        ↔ ∃ derivation : Derivation,
          derivation.tokens = beforeEnd tokens
          ∧ derivation.nesting ≤ maxNesting
          ∧ derivation.query = query)
      ∧ ∀ first second : Derivation, first.tokens = second.tokens → first = second := by
  obtain ⟨final, isLast, isEnd⟩ := Option.map_eq_some_iff.mp ends
  have found : (tokens.find? (·.kind = .endOfInput)).isSome = true := by
    rw [List.find?_isSome]
    exact ⟨final, List.mem_of_getLast? isLast, by simpa using isEnd⟩
  obtain ⟨last, found⟩ := Option.isSome_iff_exists.mp found
  exact ⟨fun _ => ofTokens_congr found, fun _ => ofTokens_eq_ok_iff found,
    fun _ _ => Derivation.tokens_inj⟩

/-- A group with a keyword as its term, joined by an operator with a modifier, and a sort key. There
is another end behind the first one.
-/
def keywordNearTerm : List Token :=
  [
    ⟨.openParen, 0⟩,
    ⟨.term "title" "title" false, 1⟩,
    ⟨.comparison .equal, 7⟩,
    ⟨.operator .and "AND", 9⟩,
    ⟨.closeParen, 12⟩,
    ⟨.operator .prox "prox", 14⟩,
    ⟨.slash, 18⟩,
    ⟨.term "distance" "distance" false, 19⟩,
    ⟨.comparison .less, 27⟩,
    ⟨.term "3" "3" false, 28⟩,
    ⟨.term "\"x\"" "x" true, 30⟩,
    ⟨.sortBy "sortBy", 34⟩,
    ⟨.term "year" "year" false, 41⟩,
    ⟨.endOfInput, 45⟩,
    ⟨.closeParen, 45⟩,
    ⟨.endOfInput, 46⟩
  ]

def keywordNearTermDerivation : Derivation :=
  {
    first := .group 0
      (.clause (.qualified ⟨"title", "title", false, 1⟩ ⟨.comparison .equal, 7⟩ []
        ⟨⟨.operator .and "AND", 9⟩, by decide⟩))
      .none 12
    others := .more
      {
        operator := .prox
        word := "prox"
        offset := 14
        modifiers := [
          ⟨18, ⟨"distance", "distance", false, 19⟩, some (.less, 27, ⟨"3", "3", false, 28⟩)⟩
        ]
        bare_unless_prox := absurd rfl
      }
      (.clause (.bare ⟨"\"x\"", "x", true, 30⟩)) .none
    sort := some {
      word := "sortBy"
      offset := 34
      keys := [⟨⟨"year", "year", false, 41⟩, []⟩]
      some_keys := by simp
    }
  }

theorem ofTokens_accepts_derivations_keywordNearTerm
    : ofTokens keywordNearTerm
      = .ok {
        root := .boolean .prox
          [
            {
              name := "distance"
              comparison := some (.less, "3")
              offset := 19
            }
          ]
          (.search {
            index := some "title"
            relation := .comparison .equal
            modifiers := []
            term := "AND"
            offset := 1
          })
          (.search (.bare "x" 30))
        sort := some [
          {
            index := "year"
            modifiers := []
          }
        ]
      } := by
  obtain ⟨_, accepted, _⟩ := ofTokens_accepts_derivations keywordNearTerm rfl
  exact (accepted _).mpr ⟨keywordNearTermDerivation, by rfl, by decide, by rfl⟩

end CqlGateway.CqlQuery
