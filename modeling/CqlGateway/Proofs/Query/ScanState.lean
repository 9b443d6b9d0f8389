import CqlGateway.Proofs.Query.Layout

/-! Where a scanner stands behind each character of a query: between tokens, in a run or in a quoted
term. Where it stands behind the last one tells whether the query has tokens, and if not, why and
where.
-/

namespace CqlGateway

open Term (Piece pieces pieces_cons ne_backslash_of_cases)
open Vocabulary (Continues EndsRun IsBetween endsRun quotedTextFrom runFrom)

/-- Where a scanner stands, and whether it stands behind a backslash that takes the next character.
-/
inductive ScanState where
  /-- In no run and no quoted term. -/
  | between
  | inRun (escaped : Bool)
  /-- In a quoted term that was opened at an offset. -/
  | inQuotes (quote : Char) (opened : Nat) (escaped : Bool)
deriving DecidableEq

namespace ScanState

/-- The state behind a character at an offset. -/
def step (offset : Nat) (state : ScanState) (character : Char) : ScanState :=
  match state with
  | .inRun true => .inRun false
  | .inQuotes quote opened true => .inQuotes quote opened false
  | .inQuotes quote opened false =>
      if character = '\\' then
        .inQuotes quote opened true
      else if character = quote then
        .between
      else
        .inQuotes quote opened false
  | .inRun false =>
      if character = '\\' then
        .inRun true
      else if endsRun character then
        .between
      else
        .inRun false
  | .between =>
      if character = '\\' then
        .inRun true
      else if endsRun character then
        .between
      else if character = '"' || character = '\'' then
        .inQuotes character offset false
      else
        .inRun false

/-- The state behind a text that starts at an offset. -/
def behind (offset : Nat) (state : ScanState) : List Char → ScanState
  | [] => state
  | character :: rest => behind (offset + 1) (state.step offset character) rest

/-- What is wrong with a query of some length that ends in the state. -/
def error? (length : Nat) : ScanState → Option ScanError
  | .between | .inRun false => none
  | .inRun true | .inQuotes _ _ true => some ⟨length - 1, .danglingBackslash⟩
  | .inQuotes _ opened false => some ⟨opened, .unterminatedTerm⟩

def isEscaped : ScanState → Bool
  | .between => false
  | .inRun escaped | .inQuotes _ _ escaped => escaped

/-- Nothing that begins where the state is over belongs to a run in front of it. -/
def IsOver (state : ScanState) (rest : List Char) : Prop :=
  match state with
  | .between => True
  | .inRun false => EndsRun rest
  | _ => False

variable {offset : Nat} {state : ScanState} {quote first : Char} {opened : Nat}
  {text rest : List Char}

theorem behind_append (offset : Nat) (state : ScanState) (text rest : List Char)
    : behind offset state (text ++ rest)
      = behind (offset + text.length) (behind offset state text) rest := by
  induction text generalizing offset state with
  | nil => rfl
  | cons first others ih =>
      rw [List.cons_append, behind, behind, ih, List.length_cons, Nat.add_assoc, Nat.add_comm 1]

-----------------------------------------------------------------------------------------
-- Quoted terms and runs
-----------------------------------------------------------------------------------------

theorem behind_inQuotes (between : ∀ piece ∈ pieces text, IsBetween quote piece)
    : behind offset (.inQuotes quote opened false) text = .inQuotes quote opened false := by
  fun_induction pieces text generalizing offset with
  | case1 => rfl
  | case2 => exact absurd rfl (between .dangling (by simp)).1
  | case3 character others ih =>
      exact ih fun piece member => between piece (by simp [member])
  | case4 character others noLast noEscape ih =>
      have notEscape := ne_backslash_of_cases noLast noEscape
      have inside : character ≠ quote := by
        rintro rfl
        exact (between (.bare character) (by simp)).2 rfl
      rw [behind, step, if_neg notEscape, if_neg inside]
      exact ih fun piece member => between piece (by simp [member])

/-- A quoted term that is not read leaves the scanner in it, with what is wrong and where. By the
recursion of the reading.
-/
theorem error?_behind_inQuotes {error : ScanError}
    (failed : quotedTextFrom quote opened offset text = .error error)
    : (behind offset (.inQuotes quote opened false) text).error? (offset + text.length)
      = some error := by
  fun_induction quotedTextFrom quote opened offset text with
  | case1 | case2 =>
      obtain rfl := Except.error.inj failed
      rfl
  | case3 offset character others ih =>
      have whole : offset + ('\\' :: character :: others).length = offset + 2 + others.length := by
        simp only [List.length_cons]
        omega
      rw [whole]
      exact ih (Outcome.map_eq_error.mp failed)
  | case4 => cases failed
  | case5 offset character others noLast noEscape inside ih =>
      have notEscape := ne_backslash_of_cases noLast noEscape
      rw [behind, step, if_neg notEscape, if_neg inside, List.length_cons, Nat.add_comm _ 1,
        ← Nat.add_assoc]
      exact ih (Outcome.map_eq_error.mp failed)

theorem behind_inRun (continues : ∀ piece ∈ pieces text, Continues piece)
    : behind offset (.inRun false) text = .inRun false := by
  fun_induction pieces text generalizing offset with
  | case1 => rfl
  | case2 => exact absurd (continues .dangling (by simp)) id
  | case3 character others ih =>
      exact ih fun piece member => continues piece (by simp [member])
  | case4 character others noLast noEscape ih =>
      have notEscape := ne_backslash_of_cases noLast noEscape
      have inside : endsRun character = false := continues (.bare character) (by simp)
      rw [behind, step, if_neg notEscape, inside]
      exact ih fun piece member => continues piece (by simp [member])

/-- A run that is not read leaves the scanner behind its last backslash, which is what is wrong. By
the recursion of the reading.
-/
theorem error?_behind_inRun {error : ScanError} (failed : runFrom offset text = .error error)
    : (behind offset (.inRun false) text).error? (offset + text.length) = some error := by
  fun_induction runFrom offset text with
  | case1 | case4 => cases failed
  | case2 =>
      obtain rfl := Except.error.inj failed
      rfl
  | case3 offset character others ih =>
      have whole : offset + ('\\' :: character :: others).length = offset + 2 + others.length := by
        simp only [List.length_cons]
        omega
      rw [whole]
      exact ih (Outcome.map_eq_error.mp failed)
  | case5 offset character others noLast noEscape inside ih =>
      have notEscape := ne_backslash_of_cases noLast noEscape
      rw [behind, step, if_neg notEscape, if_neg inside, List.length_cons, Nat.add_comm _ 1,
        ← Nat.add_assoc]
      exact ih (Outcome.map_eq_error.mp failed)

-----------------------------------------------------------------------------------------
-- Single tokens
-----------------------------------------------------------------------------------------

/-- What begins behind a state that is over begins between tokens. -/
theorem IsOver.step (isOver : state.IsOver (first :: rest))
    : state.step offset first = between.step offset first := by
  cases state with
  | between => rfl
  | inRun escaped =>
      cases escaped with
      | true => cases isOver
      | false =>
          have ends : endsRun first = true := isOver first rfl
          have notEscape : first ≠ '\\' := by
            rintro rfl
            revert ends
            decide
          simp only [ScanState.step, if_neg notEscape, ends, if_true]
  | inQuotes => cases isOver

/-- The first character tells whether a state is over. -/
theorem IsOver.of_head?_eq {others : List Char} (isOver : state.IsOver rest)
    (same : others.head? = rest.head?)
    : state.IsOver others := by
  cases state with
  | between => trivial
  | inRun escaped =>
      cases escaped with
      | true => cases isOver
      | false => exact fun next begins => isOver next (same ▸ begins)
  | inQuotes => cases isOver

/-- Only between tokens is a state over where a run would go on. -/
theorem IsOver.eq_between (isOver : state.IsOver (first :: rest)) (inside : endsRun first = false)
    : state = .between := by
  cases state with
  | between => rfl
  | inRun escaped =>
      cases escaped with
      | true => cases isOver
      | false => cases inside.symm.trans (isOver first rfl)
  | inQuotes => cases isOver

/-- Nothing is wrong with a query that ends in a state which is over. -/
theorem IsOver.error? (isOver : state.IsOver rest) (length : Nat) : state.error? length = none := by
  cases state with
  | between => rfl
  | inRun escaped =>
      cases escaped with
      | true => cases isOver
      | false => rfl
  | inQuotes => cases isOver

/-- If nothing is wrong with what ends in a state, the state is over where a run ends. -/
theorem isOver_of_error? {length : Nat} (none : state.error? length = none) (ends : EndsRun rest)
    : state.IsOver rest := by
  cases state with
  | between => trivial
  | inRun escaped =>
      cases escaped with
      | true => cases none
      | false => exact ends
  | inQuotes quote opened escaped => cases escaped <;> cases none

theorem step_between_of_endsRun (ends : endsRun first = true)
    : between.step offset first = .between := by
  have notEscape : first ≠ '\\' := by
    rintro rfl
    revert ends
    decide
  simp only [ScanState.step, if_neg notEscape, ends, if_true]

theorem step_between_of_quote (isQuote : first = '"' ∨ first = '\'')
    : between.step offset first = .inQuotes first offset false := by
  rcases isQuote with rfl | rfl <;> rfl

/-- A run begins as it goes on. -/
theorem step_between_of_inside (inside : endsRun first = false)
    (notQuote : first ≠ '"' ∧ first ≠ '\'')
    : between.step offset first = (inRun false).step offset first := by
  simp [ScanState.step, inside, notQuote]

end ScanState

namespace Vocabulary

open ScanState (behind)

variable {vocabulary : Vocabulary} {first : Char} {text others rest : List Char} {data : TokenData}
  {state : ScanState} {offset length : Nat}

/-- The first character behind a symbol tells whether it becomes longer. -/
theorem comparison?_congr (same : text.head? = rest.head?)
    : comparison? first text = comparison? first rest := by
  cases text with
  | nil =>
      obtain rfl := List.head?_eq_none_iff.mp same.symm
      rfl
  | cons next others =>
      obtain ⟨more, rfl⟩ := List.head?_eq_some_iff.mp same.symm
      unfold comparison?
      split <;> simp_all

/-- A token is read up to where the rest begins. It leaves the scanner in a state that is over
there, and is read again in front of any text where the state is over and no symbol becomes longer.
-/
structure EndsToken (vocabulary : Vocabulary) (first : Char) (others rest : List Char)
    (data : TokenData) (state : ScanState)
    : Prop where
  leaves : ∀ offset, behind offset .between (first :: others) = state
  isOver : state.IsOver rest
  again : ∀ offset next, state.IsOver next → next.head? = rest.head? ∨ EndsSymbol next →
    vocabulary.lexeme offset first (others ++ next) = .ok (data, others.length)

/-- A single character that is a token leaves the scanner between tokens. -/
theorem EndsToken.single (delimits : endsRun first = true)
    (found : ∀ offset next, vocabulary.lexeme offset first next = .ok (data, 0))
    : EndsToken vocabulary first [] rest data .between where
  leaves _ := ScanState.step_between_of_endsRun delimits
  isOver := trivial
  again offset next _ _ := found offset next

theorem EndsToken.symbol {symbol : Comparison} (written : symbol.symbol.toList = first :: others)
    (found : comparison? first (others ++ rest) = some symbol)
    : EndsToken vocabulary first others rest (.comparison symbol) .between where
  leaves _ := by
    cases symbol
    all_goals
      obtain ⟨rfl, rfl⟩ := List.cons.inj written
      rfl
  isOver := trivial
  again offset next _ same := by
    have again : comparison? first (others ++ next) = some symbol := by
      rcases same with same | ends
      · rw [← found]
        apply comparison?_congr
        cases others <;> simp [same]
      · exact comparison?_of_symbol written ends
    rw [lexeme_of_comparison? again, ← String.length_toList, written, List.length_cons,
      Nat.add_sub_cancel]

theorem EndsToken.run (isRun : IsRun (first :: others)) (ends : EndsRun rest)
    : EndsToken vocabulary first others rest
        (vocabulary.classify (String.ofList (first :: others))) (.inRun false) where
  leaves _ := by
    have begins := isRun.opens first rfl
    rw [behind, ScanState.step_between_of_inside isRun.endsRun_eq_false begins, ← behind]
    exact ScanState.behind_inRun isRun.continues
  isOver := ends
  again offset next isOver _ := lexeme_run isRun isOver

theorem EndsToken.quoted {value : List Char} (isQuote : first = '"' ∨ first = '\'')
    (between : ∀ piece ∈ pieces value, IsBetween first piece)
    : EndsToken vocabulary first (value ++ [first]) rest (quotedTerm first value) .between where
  leaves offset := by
    have closes : (ScanState.inQuotes first offset false).step (offset + 1 + value.length) first
        = .between := by
      rcases isQuote with rfl | rfl <;> rfl
    rw [behind, ScanState.step_between_of_quote isQuote, ScanState.behind_append,
      ScanState.behind_inQuotes between]
    exact closes
  isOver := trivial
  again offset next _ _ := by
    rw [lexeme_quoted isQuote between]
    simp

/-- Every token that is read ends where the rest of the text begins, by the cases of the reading. -/
theorem endsToken_of_lexeme (visible : Text.isWhiteSpace first = false)
    (read : vocabulary.lexeme offset first text = .ok (data, length))
    : ∃ others rest state,
        text = others ++ rest
        ∧ others.length = length
        ∧ EndsToken vocabulary first others rest data state := by
  revert read
  fun_cases Vocabulary.lexeme vocabulary offset first text with
  | case1 isOpen =>
      rintro ⟨⟩
      subst first
      exact ⟨[], text, .between, rfl, rfl, .single rfl fun _ _ => rfl⟩
  | case2 _ isClose =>
      rintro ⟨⟩
      subst first
      exact ⟨[], text, .between, rfl, rfl, .single rfl fun _ _ => rfl⟩
  | case3 _ _ isSlash =>
      rintro ⟨⟩
      subst first
      exact ⟨[], text, .between, rfl, rfl, .single rfl fun _ _ => rfl⟩
  | case4 _ _ _ isQuote =>
      intro read
      obtain ⟨value, found, ⟨⟩⟩ := Outcome.map_eq_ok.mp read
      obtain ⟨between, rest, rfl⟩ := isBetween_of_quotedTextFrom found
      exact ⟨value ++ [first], rest, .between, by simp, by simp,
        .quoted (by simpa using isQuote) between⟩
  | case5 _ _ _ _ symbol found =>
      rintro ⟨⟩
      obtain ⟨others, rest, rfl, written, -⟩ := symbol_of_comparison? found
      refine ⟨others, rest, .between, rfl, ?_, .symbol written found⟩
      rw [← String.length_toList, written, List.length_cons, Nat.add_sub_cancel]
  | case6 notOpen notClose notSlash notQuote none =>
      intro read
      obtain ⟨run, found, ⟨⟩⟩ := Outcome.map_eq_ok.mp read
      have inside := inside_of_comparison? visible ⟨notOpen, notClose⟩ notSlash none
      have isRun := isRun_of_runFrom inside (by simpa using notQuote) found
      obtain ⟨-, rest, same, ends⟩ := continues_of_runFrom found
      cases run with
      | nil => exact absurd rfl isRun.ne_nil
      | cons lead others =>
          obtain ⟨rfl, rfl⟩ := List.cons.inj same
          exact ⟨others, rest, .inRun false, rfl, rfl, .run isRun ends⟩

/-- Behind a token the scanner stands as between tokens, unless the token is all there is. -/
theorem EndsToken.behind {next : List Char}
    (ends : EndsToken vocabulary first others rest data state) (isOver : state.IsOver next)
    (offset : Nat)
    : behind offset .between (first :: (others ++ next))
      = match next with
        | [] => state
        | _ => behind (offset + 1 + others.length) .between next := by
  have whole : ScanState.behind offset .between (first :: (others ++ next))
      = ScanState.behind (offset + (others.length + 1)) state next := by
    rw [← List.cons_append, ScanState.behind_append, ends.leaves, List.length_cons]
  rw [whole]
  cases next with
  | nil => rfl
  | cons character more =>
      rw [ScanState.behind, isOver.step, ← ScanState.behind]
      congr 1
      omega

/-- A token that is not read leaves the scanner in it, with what is wrong and where. -/
theorem error?_behind_of_lexeme {error : ScanError} (visible : Text.isWhiteSpace first = false)
    (failed : vocabulary.lexeme offset first text = .error error)
    : (behind offset .between (first :: text)).error? (offset + (first :: text).length)
      = some error := by
  revert failed
  fun_cases Vocabulary.lexeme vocabulary offset first text with
  | case1 | case2 | case3 | case5 => simp
  | case4 _ _ _ isQuote =>
      intro failed
      rw [behind, ScanState.step_between_of_quote (by simpa using isQuote), List.length_cons,
        Nat.add_comm _ 1, ← Nat.add_assoc]
      exact ScanState.error?_behind_inQuotes (Outcome.map_eq_error.mp failed)
  | case6 notOpen notClose notSlash notQuote none =>
      intro failed
      have inside := inside_of_comparison? visible ⟨notOpen, notClose⟩ notSlash none
      rw [behind, ScanState.step_between_of_inside inside (by simpa using notQuote), ← behind]
      exact ScanState.error?_behind_inRun (Outcome.map_eq_error.mp failed)

-----------------------------------------------------------------------------------------
-- Whole queries
-----------------------------------------------------------------------------------------

theorem step_between_of_isWhiteSpace (white : Text.isWhiteSpace first = true)
    : ScanState.between.step offset first = .between :=
  ScanState.step_between_of_endsRun (by simp [endsRun, white])

/-- What is wrong with a text, if anything, is told by the state behind it, by the recursion of the
scan.
-/
theorem error?_tokensFrom (vocabulary : Vocabulary) (offset : Nat) (text : List Char)
    : Outcome.error? (vocabulary.tokensFrom offset text)
      = (behind offset .between text).error? (offset + text.length) := by
  fun_induction tokensFrom vocabulary offset text with
  | case1 => rfl
  | case2 offset first rest white ih =>
      rw [ih, behind, step_between_of_isWhiteSpace white, List.length_cons, Nat.add_right_comm,
        Nat.add_assoc]
  | case3 offset first rest visible fault failed =>
      exact (error?_behind_of_lexeme (by simpa using visible) failed).symm
  | case4 offset first text visible data length found ih =>
      obtain ⟨others, rest, state, rfl, rfl, ends⟩ :=
        endsToken_of_lexeme (by simpa using visible) found
      rw [List.drop_left] at ih ⊢
      refine (Outcome.error?_map _ _).trans (ih.trans ?_)
      rw [ends.behind ends.isOver, List.length_cons, List.length_append]
      cases rest with
      | nil =>
          rw [ends.isOver.error?]
          rfl
      | cons next more =>
          congr 1
          omega

/-- A text with tokens keeps them in front of a rest where the state behind it is over and no symbol
becomes longer, and those of the rest come behind them. By the recursion of the scan.
-/
theorem tokensFrom_append {front : List Char} {body : List Token} {last : Nat}
    (scanned : vocabulary.tokensFrom offset front = .ok (body ++ [⟨.endOfInput, last⟩]))
    (isOver : (behind offset .between front).IsOver rest) (endsSymbol : EndsSymbol rest)
    : vocabulary.tokensFrom offset (front ++ rest)
      = (body ++ ·) <$> vocabulary.tokensFrom (offset + front.length) rest := by
  fun_induction tokensFrom vocabulary offset front generalizing body with
  | case1 offset =>
      rw [← List.nil_append [_]] at scanned
      obtain ⟨rfl, -⟩ := List.append_inj' (Except.ok.inj scanned) rfl
      exact (id_map _).symm
  | case2 offset first others white ih =>
      rw [behind, step_between_of_isWhiteSpace white] at isOver
      rw [List.cons_append, tokensFrom, if_pos white, ih scanned isOver, List.length_cons,
        Nat.add_right_comm, Nat.add_assoc]
  | case3 => cases scanned
  | case4 offset first text visible data length found ih =>
      obtain ⟨others, tail, state, rfl, rfl, ends⟩ :=
        endsToken_of_lexeme (by simpa using visible) found
      rw [List.drop_left] at ih scanned
      obtain ⟨later, read, same⟩ := Outcome.map_eq_ok.mp scanned
      obtain ⟨laterBody, laterLast, rfl, -⟩ := isScanned_of_tokensFrom read
      rw [← List.cons_append] at same
      obtain ⟨rfl, sameLast⟩ := List.append_inj' same rfl
      rw [sameLast] at read
      rw [ends.behind ends.isOver] at isOver
      have overTail : state.IsOver (tail ++ rest) := by
        cases tail with
        | nil => exact isOver
        | cons next more => exact ends.isOver.of_head?_eq rfl
      have lexeme : vocabulary.lexeme offset first (others ++ (tail ++ rest))
          = .ok (data, others.length) := by
        refine ends.again offset _ overTail ?_
        cases tail with
        | nil => exact .inr endsSymbol
        | cons next more => exact .inl rfl
      have overThere : (behind (offset + 1 + others.length) .between tail).IsOver rest := by
        cases tail with
        | nil => trivial
        | cons next more => exact isOver
      have place : offset + 1 + others.length + tail.length
          = offset + (first :: (others ++ tail)).length := by
        simp only [List.length_cons, List.length_append]
        omega
      rw [List.cons_append, List.append_assoc, tokensFrom, if_neg visible]
      simp only [lexeme, List.drop_left, ih read overThere, place]
      cases vocabulary.tokensFrom (offset + (first :: (others ++ tail)).length) rest <;> rfl

end Vocabulary

end CqlGateway
