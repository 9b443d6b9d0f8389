import CqlGateway.Proofs.Query.ScanState

/-! What is wrong with queries that have no tokens: a quoted term is open at the end, or a backslash
at the end has no character to take. Nothing else ever is.
-/

namespace CqlGateway

open Term (Piece isWhole_of_mem_pieces ne_backslash_of_cases pieces pieces_cons
  pieces_written_append written_pieces)
open ScanState (behind)

-----------------------------------------------------------------------------------------
-- Backslashes
-----------------------------------------------------------------------------------------

namespace ScanState

variable {offset length : Nat} {state : ScanState} {text : List Char} {first : Char}

theorem isEscaped_step (free : state.isEscaped = false)
    : (state.step offset first).isEscaped = decide (first = '\\') := by
  by_cases escape : first = '\\'
  · subst escape
    cases state with
    | between => rfl
    | inRun | inQuotes =>
        obtain rfl : _ = false := free
        rfl
  · rw [decide_eq_false escape]
    cases state with
    | between =>
        simp only [step, if_neg escape]
        split
        · rfl
        · split <;> rfl
    | inRun | inQuotes =>
        obtain rfl : _ = false := free
        simp only [step, if_neg escape]
        split <;> rfl

theorem isEscaped_step_of_isEscaped (taken : state.isEscaped = true)
    : (state.step offset first).isEscaped = false := by
  cases state with
  | between => cases taken
  | inRun | inQuotes =>
      obtain rfl : _ = true := taken
      rfl

/-- The scanner stands behind a backslash that takes a character if and only if the last backslash
of the text has none to take. By the recursion over the pieces.
-/
theorem isEscaped_behind (free : state.isEscaped = false)
    : (behind offset state text).isEscaped = true ↔ .dangling ∈ pieces text := by
  fun_induction pieces text generalizing offset state with
  | case1 => simp [behind, free]
  | case2 => simp [behind, isEscaped_step free]
  | case3 character others ih =>
      rw [behind, behind, ih]
      · simp
      · exact isEscaped_step_of_isEscaped (isEscaped_step free)
  | case4 character others noLast noEscape ih =>
      have notEscape := ne_backslash_of_cases noLast noEscape
      rw [behind, ih]
      · simp
      · simp [isEscaped_step free, notEscape]

theorem error?_eq_danglingBackslash {place : Nat}
    : state.error? length = some ⟨place, .danglingBackslash⟩
      ↔ state.isEscaped = true ∧ place = length - 1 := by
  cases state with
  | between => simp [error?, isEscaped]
  | inRun escaped | inQuotes _ _ escaped => cases escaped <;> simp [error?, isEscaped, eq_comm]

end ScanState

namespace Vocabulary

variable {vocabulary : Vocabulary} {query : String} {text : List Char} {first : Char}
  {offset place : Nat}

/-- A query fails for a backslash if and only if it ends in one that has no character to take. -/
theorem tokens_eq_danglingBackslash
    : vocabulary.tokens query = .error ⟨place, .danglingBackslash⟩
      ↔ .dangling ∈ pieces query.toList ∧ place = query.length - 1 := by
  rw [← Outcome.error?_eq_some, tokens, error?_tokensFrom, ScanState.error?_eq_danglingBackslash,
    ScanState.isEscaped_behind rfl, Nat.zero_add, String.length_toList]

/-- A text that ends in a backslash without a character to take is one with whole pieces in front of
that backslash.
-/
theorem exists_of_dangling_mem (member : .dangling ∈ pieces text)
    : ∃ front, text = front ++ ['\\'] ∧ .dangling ∉ pieces front := by
  fun_induction pieces text with
  | case1 => cases member
  | case2 => exact ⟨[], rfl, by simp [pieces]⟩
  | case3 character others ih =>
      obtain ⟨front, rfl, whole⟩ := ih (by simpa using member)
      exact ⟨'\\' :: character :: front, rfl, by simpa [pieces] using whole⟩
  | case4 character others noLast noEscape ih =>
      have notEscape := ne_backslash_of_cases noLast noEscape
      obtain ⟨front, rfl, whole⟩ := ih (by simpa using member)
      exact ⟨character :: front, rfl, by simpa [pieces_cons notEscape] using whole⟩

-----------------------------------------------------------------------------------------
-- Quoted terms
-----------------------------------------------------------------------------------------

/-- A run is refused for a backslash only. -/
theorem fault_of_runFrom {error : ScanError} (failed : runFrom place text = .error error)
    : error.fault = .danglingBackslash := by
  fun_induction runFrom place text with
  | case1 | case4 => cases failed
  | case2 =>
      obtain rfl := Except.error.inj failed
      rfl
  | case3 _ _ _ ih | case5 _ _ _ _ _ _ ih => exact ih (Outcome.map_eq_error.mp failed)

/-- A term that is left open is refused where it was opened. -/
theorem opened_of_quotedTextFrom {quote : Char} {opened start : Nat}
    (failed : quotedTextFrom quote opened start text = .error ⟨place, .unterminatedTerm⟩)
    : opened = place := by
  fun_induction quotedTextFrom quote opened start text with
  | case1 => exact (ScanError.mk.inj (Except.error.inj failed)).1
  | case2 | case4 => cases failed
  | case3 _ _ _ ih | case5 _ _ _ _ _ _ ih => exact ih (Outcome.map_eq_error.mp failed)

theorem lexeme_eq_unterminatedTerm
    (failed : vocabulary.lexeme offset first text = .error ⟨place, .unterminatedTerm⟩)
    : offset = place
      ∧ (first = '"' ∨ first = '\'')
      ∧ quotedTextFrom first place (place + 1) text = .error ⟨place, .unterminatedTerm⟩ := by
  revert failed
  fun_cases Vocabulary.lexeme vocabulary offset first text with
  | case4 _ _ _ isQuote =>
      intro failed
      have isOpen := Outcome.map_eq_error.mp failed
      obtain rfl := opened_of_quotedTextFrom isOpen
      exact ⟨rfl, by simpa using isQuote, isOpen⟩
  | case6 =>
      intro failed
      cases fault_of_runFrom (Outcome.map_eq_error.mp failed)
  | case1 | case2 | case3 | case5 => simp

/-- A text that fails for an open term has the term's quote between tokens, by the recursion of the
scan.
-/
theorem exists_of_unterminatedTerm
    (failed : vocabulary.tokensFrom offset text = .error ⟨place, .unterminatedTerm⟩)
    : ∃ front quote rest,
        text = front ++ quote :: rest
        ∧ place = offset + front.length
        ∧ (quote = '"' ∨ quote = '\'')
        ∧ behind offset .between front = .between
        ∧ quotedTextFrom quote place (place + 1) rest = .error ⟨place, .unterminatedTerm⟩ := by
  fun_induction tokensFrom vocabulary offset text with
  | case1 => cases failed
  | case2 offset first others white ih =>
      obtain ⟨front, quote, rest, rfl, rfl, isQuote, between, isOpen⟩ := ih failed
      refine ⟨first :: front, quote, rest, rfl, ?_, isQuote, ?_, isOpen⟩
      · rw [List.length_cons, Nat.add_right_comm, Nat.add_assoc]
      · rw [behind, step_between_of_isWhiteSpace white, between]
  | case3 offset first others visible error unread =>
      obtain rfl := Except.error.inj failed
      obtain ⟨rfl, isQuote, isOpen⟩ := lexeme_eq_unterminatedTerm unread
      exact ⟨[], first, others, rfl, rfl, isQuote, rfl, isOpen⟩
  | case4 offset first text visible data length found ih =>
      obtain ⟨others, tail, state, rfl, rfl, ends⟩ :=
        endsToken_of_lexeme (by simpa using visible) found
      rw [List.drop_left] at ih failed
      obtain ⟨front, quote, rest, rfl, rfl, isQuote, between, isOpen⟩ :=
        ih (Outcome.map_eq_error.mp failed)
      refine ⟨first :: (others ++ front), quote, rest, by simp, ?_, isQuote, ?_, isOpen⟩
      · simp only [List.length_cons, List.length_append]
        omega
      · cases front with
        | nil =>
            have inside : endsRun quote = false := by
              rcases isQuote with rfl | rfl <;> rfl
            rw [List.append_nil, ends.leaves, ends.isOver.eq_between inside]
        | cons next more =>
            have isOver : state.IsOver (next :: more) := ends.isOver.of_head?_eq rfl
            rw [ends.behind isOver, between]

/-- What stands in an open term is closed by the same quote behind it. -/
theorem isBetween_of_unterminatedTerm {quote : Char} {opened : Nat}
    (isOpen : quotedTextFrom quote opened offset text = .error ⟨place, .unterminatedTerm⟩)
    : ∀ piece ∈ pieces text, IsBetween quote piece := by
  fun_induction quotedTextFrom quote opened offset text with
  | case1 => simp [pieces]
  | case2 => cases isOpen
  | case3 offset character others ih =>
      have later := ih (Outcome.map_eq_error.mp isOpen)
      simpa [pieces, IsBetween] using later
  | case4 => cases isOpen
  | case5 offset character others noLast noEscape inside ih =>
      have notEscape := ne_backslash_of_cases noLast noEscape
      have later := ih (Outcome.map_eq_error.mp isOpen)
      rw [pieces_cons notEscape]
      simpa [IsBetween, inside] using later

-----------------------------------------------------------------------------------------
-- Faulty queries
-----------------------------------------------------------------------------------------

/-- A quote that begins a term is the last one to do so, and nothing else is wrong: there are tokens
in front of it, and the same quote at the end makes one more of it.
-/
def EndsInOpenTerm (vocabulary : Vocabulary) (query : String) (offset : Nat) : Prop :=
  ∃ front quote value body,
    query.toList = front ++ quote :: value
    ∧ front.length = offset
    ∧ (quote = '"' ∨ quote = '\'')
    ∧ vocabulary.tokens (String.ofList front) = .ok (body ++ [⟨.endOfInput, offset⟩])
    ∧ vocabulary.tokens (query.push quote)
      = .ok (body ++ [⟨quotedTerm quote value, offset⟩, ⟨.endOfInput, query.length + 1⟩])

/-- The last character is a backslash without a character to take. No backslash is left alone
without it, nor behind it with one more character, whatever that is.
-/
def EndsInLoneBackslash (vocabulary : Vocabulary) (query : String) (offset : Nat) : Prop :=
  ∃ front,
    query.toList = front ++ ['\\']
    ∧ front.length = offset
    ∧ (∀ error,
      vocabulary.tokens (String.ofList front) = .error error → error.fault = .unterminatedTerm)
    ∧ ∀ character error,
      vocabulary.tokens (query.push character) = .error error → error.fault = .unterminatedTerm

/-- Each quote that begins a term has the same quote behind it, which no backslash takes. -/
def ClosesQuotes (text : List Char) : Prop :=
  ∀ front quote rest,
    text = front ++ quote :: rest
    → quote = '"' ∨ quote = '\''
    → behind 0 .between front = .between
    → ∃ value others,
      rest = value ++ quote :: others ∧ ∀ piece ∈ pieces value, IsBetween quote piece

/-- Where the scanner stands between tokens, a text has tokens and the end. -/
theorem exists_of_between {front : List Char} (between : behind offset .between front = .between)
    : ∃ body,
        vocabulary.tokensFrom offset front
        = .ok (body ++ [⟨.endOfInput, offset + front.length⟩]) := by
  have none := error?_tokensFrom vocabulary offset front
  rw [between] at none
  cases scanned : vocabulary.tokensFrom offset front with
  | error error => simp [scanned, Outcome.error?, ScanState.error?] at none
  | ok tokens =>
      obtain ⟨_, placed, rfl, -⟩ := arePlaced_of_tokensFrom scanned
      exact ⟨_, rfl⟩

/-- What stands in an open term and the quote that closes it are the last token. -/
theorem tokensFrom_quoted {quote : Char} {value : List Char} (isQuote : quote = '"' ∨ quote = '\'')
    (between : ∀ piece ∈ pieces value, IsBetween quote piece)
    : vocabulary.tokensFrom offset (quote :: (value ++ [quote]))
      = .ok [
        ⟨quotedTerm quote value, offset⟩,
        ⟨.endOfInput, offset + (value.length + 2)⟩
      ] := by
  have visible : Text.isWhiteSpace quote = false := by
    rcases isQuote with rfl | rfl <;> rfl
  have read : vocabulary.lexeme offset quote (value ++ [quote])
      = .ok (quotedTerm quote value, value.length + 1) := by
    rw [← lexeme_quoted isQuote between, List.append_nil]
  have last : (value ++ [quote]).drop (value.length + 1) = [] := by simp
  rw [tokensFrom, if_neg (by simp [visible])]
  have behind : offset + (value.length + 2) = offset + 1 + (value.length + 1) := by omega
  simp only [read, last, tokensFrom, behind]
  rfl

theorem endsInOpenTerm_of_error
    (failed : vocabulary.tokens query = .error ⟨place, .unterminatedTerm⟩)
    : vocabulary.EndsInOpenTerm query place := by
  obtain ⟨front, quote, value, text, rfl, isQuote, between, isOpen⟩ :=
    exists_of_unterminatedTerm failed
  obtain ⟨body, scanned⟩ := @exists_of_between vocabulary _ _ between
  have ends : EndsSymbol (quote :: (value ++ [quote])) := by
    rintro next ⟨⟩
    rcases isQuote with rfl | rfl <;> decide
  have closed := tokensFrom_append scanned (by rw [between]; trivial) ends
  rw [tokensFrom_quoted isQuote (isBetween_of_unterminatedTerm isOpen)] at closed
  refine ⟨front, quote, value, body, text, (Nat.zero_add _).symm, isQuote, ?_, ?_⟩
  · rw [tokens, String.toList_ofList, scanned]
  · have length : query.length + 1 = 0 + front.length + (value.length + 2) := by
      rw [← String.length_toList, text, List.length_append, List.length_cons]
      omega
    have whole : (query.push quote).toList = front ++ (quote :: (value ++ [quote])) := by
      rw [String.toList_push, text, List.append_assoc, List.cons_append]
    rw [tokens, whole, closed, length]
    rfl

theorem fault_eq_unterminatedTerm (whole : .dangling ∉ pieces query.toList) {error : ScanError}
    (failed : vocabulary.tokens query = .error error)
    : error.fault = .unterminatedTerm := by
  obtain ⟨offset, fault⟩ := error
  cases fault with
  | unterminatedTerm => rfl
  | danglingBackslash => exact absurd (tokens_eq_danglingBackslash.mp failed).1 whole

theorem endsInLoneBackslash_of_error
    (failed : vocabulary.tokens query = .error ⟨place, .danglingBackslash⟩)
    : vocabulary.EndsInLoneBackslash query place := by
  obtain ⟨member, rfl⟩ := tokens_eq_danglingBackslash.mp failed
  obtain ⟨front, text, whole⟩ := exists_of_dangling_mem member
  refine ⟨front, text, ?_, ?_, ?_⟩
  · rw [← String.length_toList, text, List.length_append, List.length_singleton,
      Nat.add_sub_cancel]
  · intro error failed
    exact fault_eq_unterminatedTerm (by simpa using whole) failed
  · intro character error failed
    refine fault_eq_unterminatedTerm ?_ failed
    have taken := pieces_written_append (isWhole_of_mem_pieces whole) ['\\', character]
    rw [written_pieces] at taken
    simp [String.toList_push, text, taken, whole, pieces]

theorem closesQuotes_of_tokens {all : List Token} (scanned : vocabulary.tokens query = .ok all)
    : ClosesQuotes query.toList := by
  intro front quote rest text isQuote between
  have none : Outcome.error? (vocabulary.tokens query) = none := by
    rw [scanned]
    rfl
  rw [tokens, error?_tokensFrom, text, ScanState.behind_append, between, behind,
    ScanState.step_between_of_quote isQuote, List.length_append, List.length_cons,
    Nat.add_comm _ 1, ← Nat.add_assoc, ← Nat.add_assoc] at none
  cases read : quotedTextFrom quote (0 + front.length) (0 + front.length + 1) rest with
  | ok value =>
      obtain ⟨inside, others, rfl⟩ := isBetween_of_quotedTextFrom read
      exact ⟨value, others, rfl, inside⟩
  | error error => cases none.symm.trans (ScanState.error?_behind_inQuotes read)

/-- A query has no tokens only because its last quoted term is open or its last backslash is alone.
It has tokens if and only if each quote that begins a term is closed and no backslash is alone.
-/
theorem tokens_fail_at_open_end (vocabulary : Vocabulary) (query : String)
    : (∀ error,
        vocabulary.tokens query = .error error
        → (error.fault.message = "unterminated quoted term"
            ∧ vocabulary.EndsInOpenTerm query error.offset)
          ∨ (error.fault.message = "dangling backslash"
            ∧ vocabulary.EndsInLoneBackslash query error.offset))
      ∧ ((∃ tokens, vocabulary.tokens query = .ok tokens)
        ↔ ClosesQuotes query.toList ∧ .dangling ∉ pieces query.toList) := by
  refine ⟨?_, ?_⟩
  · rintro ⟨offset, fault⟩ failed
    cases fault with
    | unterminatedTerm => exact .inl ⟨rfl, endsInOpenTerm_of_error failed⟩
    | danglingBackslash => exact .inr ⟨rfl, endsInLoneBackslash_of_error failed⟩
  constructor
  · rintro ⟨tokens, scanned⟩
    refine ⟨closesQuotes_of_tokens scanned, fun member => ?_⟩
    cases scanned.symm.trans (tokens_eq_danglingBackslash.mpr ⟨member, rfl⟩)
  · rintro ⟨closed, whole⟩
    cases scanned : vocabulary.tokens query with
    | ok tokens => exact ⟨tokens, rfl⟩
    | error error =>
        obtain ⟨offset, fault⟩ := error
        obtain rfl := fault_eq_unterminatedTerm whole scanned
        obtain ⟨front, quote, rest, text, rfl, isQuote, between, isOpen⟩ :=
          exists_of_unterminatedTerm scanned
        obtain ⟨value, others, rfl, inside⟩ := closed front quote rest text isQuote between
        have notEscape : quote ≠ '\\' := by
          rcases isQuote with rfl | rfl <;> decide
        cases isOpen.symm.trans (quotedTextFrom_append inside notEscape)

/-- A quote that a backslash takes closes no term, and the backslash at the end of a term that is
open is what is wrong with the query.
-/
theorem tokens_fail_at_open_end_taken
    : Vocabulary.standard.EndsInOpenTerm "a \"b\\\" c" 2
      ∧ Vocabulary.standard.EndsInLoneBackslash "a \"b\\" 4 := by
  have openTerm : Vocabulary.standard.tokens "a \"b\\\" c" = .error ⟨2, .unterminatedTerm⟩ :=
    Outcome.error?_eq_some.mp (by decide +kernel)
  have loneBackslash : Vocabulary.standard.tokens "a \"b\\" = .error ⟨4, .danglingBackslash⟩ :=
    Outcome.error?_eq_some.mp (by decide +kernel)
  constructor
  · rcases (tokens_fail_at_open_end _ _).1 _ openTerm with ⟨-, ends⟩ | ⟨other, -⟩
    · exact ends
    · exact absurd other (by decide)
  · rcases (tokens_fail_at_open_end _ _).1 _ loneBackslash with ⟨other, -⟩ | ⟨-, ends⟩
    · exact absurd other (by decide)
    · exact ends

end Vocabulary

end CqlGateway
