import CqlGateway.Proofs.Query.Acceptance
import CqlGateway.Proofs.Query.Scanning

/-! Texts that hold a query: their tokens have a derivation. Others have no tokens, or their tokens
have none.
-/

namespace CqlGateway.Vocabulary

open Grammar

variable {vocabulary : Vocabulary} {text : String} {query : CqlQuery}

theorem parse_eq_ok
    : vocabulary.parse text = .ok query
      ↔ ∃ tokens, vocabulary.tokens text = .ok tokens ∧ CqlQuery.ofTokens tokens = .ok query := by
  simp only [parse, Outcome.bind_eq_ok, Outcome.mapError_eq_ok]

/-- A text is refused by the scanner, or with tokens by the parser. -/
theorem parse_eq_error {error : Error}
    : vocabulary.parse text = .error error
      ↔ (∃ fault, vocabulary.tokens text = .error fault ∧ .scan fault = error)
        ∨ ∃ tokens fault,
          vocabulary.tokens text = .ok tokens
          ∧ CqlQuery.ofTokens tokens = .error fault
          ∧ .parse fault = error := by
  simp only [parse, Outcome.bind_eq_error, Outcome.mapError_eq_error, Outcome.mapError_eq_ok,
    exists_and_left]

/-- A text is accepted if its tokens in front of the end have a derivation. -/
theorem parse_eq_ok_of_derivation {body : List Token} {last : Nat} {derivation : Derivation}
    (scanned : vocabulary.tokens text = .ok (body ++ [⟨.endOfInput, last⟩]))
    (parts : derivation.tokens = body) (bound : derivation.nesting ≤ maxNesting)
    : vocabulary.parse text = .ok derivation.query := by
  have noEnd := kind_ne_of_tokens scanned
  have accepted := (@CqlQuery.ofTokens_append_eq_ok_iff ⟨.endOfInput, last⟩ _ rfl noEnd _).mpr
    ⟨derivation, parts, bound, rfl⟩
  exact parse_eq_ok.mpr ⟨_, scanned, accepted⟩

/-- An accepted text has a derivation of scanned tokens. -/
theorem exists_derivation_of_parse (accepted : vocabulary.parse text = .ok query)
    : ∃ (derivation : Derivation) (last : Nat),
        vocabulary.tokens text = .ok (derivation.tokens ++ [⟨.endOfInput, last⟩])
        ∧ (∀ token ∈ derivation.tokens, vocabulary.IsScanned token.data)
        ∧ derivation.nesting ≤ maxNesting
        ∧ derivation.query = query := by
  obtain ⟨tokens, scanned, read⟩ := parse_eq_ok.mp accepted
  obtain ⟨body, last, rfl, each⟩ := isScanned_of_tokensFrom scanned
  obtain ⟨derivation, rfl, bound, same⟩ :=
    (CqlQuery.ofTokens_append_eq_ok_iff rfl (kind_ne_of_tokens scanned)).mp read
  exact ⟨derivation, last, scanned, each, bound, same⟩

end CqlGateway.Vocabulary
