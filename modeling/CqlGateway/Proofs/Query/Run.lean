import CqlGateway.Proofs.Outcome
import CqlGateway.Proofs.Term.Pieces
import CqlGateway.Proofs.Text.Lowercase
import CqlGateway.Query.Scan

/-! Runs and quoted terms as the scanner finds them in a text, said of their pieces. -/

namespace CqlGateway.Vocabulary

open Term (Piece pieces pieces_cons pieces_append ne_backslash_of_cases)

variable {quote character : Char} {text rest : List Char} {opened place : Nat}

-----------------------------------------------------------------------------------------
-- Pieces
-----------------------------------------------------------------------------------------

/-- A run goes on with the piece. -/
def Continues : Piece → Prop
  | .bare character => endsRun character = false
  | .escaped _ => True
  | .dangling => False

instance : DecidablePred Continues
  | .bare _ => inferInstanceAs (Decidable (_ = _))
  | .escaped _ => inferInstanceAs (Decidable True)
  | .dangling => inferInstanceAs (Decidable False)

/-- What stands between quotes goes on with the piece. -/
def IsBetween (quote : Char) (piece : Piece) : Prop :=
  piece ≠ .dangling ∧ piece ≠ .bare quote

/-- A run of which the scanner makes one token: it is no quoted term, nothing in it ends it, and no
backslash at its end would take what stands behind it.
-/
structure IsRun (run : List Char) : Prop where
  ne_nil : run ≠ []
  opens : ∀ first ∈ run.head?, first ≠ '"' ∧ first ≠ '\''
  continues : ∀ piece ∈ pieces run, Continues piece

instance (run : List Char) : Decidable (IsRun run) :=
  have : Decidable (∀ first ∈ run.head?, first ≠ '"' ∧ first ≠ '\'') :=
    Option.decidableForallMem run.head?
  decidable_of_iff (run ≠ [] ∧ _ ∧ ∀ piece ∈ pieces run, Continues piece)
    ⟨fun ⟨length, opens, continues⟩ => ⟨length, opens, continues⟩,
      fun ⟨length, opens, continues⟩ => ⟨length, opens, continues⟩⟩

/-- A run is over where the rest begins. -/
def EndsRun (rest : List Char) : Prop :=
  ∀ first ∈ rest.head?, endsRun first = true

theorem runFrom_cons (notEscape : character ≠ '\\')
    : runFrom place (character :: rest)
      = if endsRun character then .ok [] else (character :: ·) <$> runFrom (place + 1) rest := by
  rw [runFrom]
  · rintro rfl
    exact absurd rfl notEscape
  · rintro next others rfl
    exact absurd rfl notEscape

theorem quotedTextFrom_cons (notEscape : character ≠ '\\')
    : quotedTextFrom quote opened place (character :: rest)
      = if character = quote then .ok []
        else (character :: ·) <$> quotedTextFrom quote opened (place + 1) rest := by
  rw [quotedTextFrom]
  · rintro rfl
    exact absurd rfl notEscape
  · rintro next others rfl
    exact absurd rfl notEscape

-----------------------------------------------------------------------------------------
-- Runs
-----------------------------------------------------------------------------------------

/-- A run is read up to where the rest ends it, by the recursion over its pieces. -/
theorem runFrom_append (continues : ∀ piece ∈ pieces text, Continues piece) (ends : EndsRun rest)
    : runFrom place (text ++ rest) = .ok text := by
  fun_induction pieces text generalizing place with
  | case1 =>
      cases rest with
      | nil => rfl
      | cons first others =>
          have atEnd := ends first (by simp)
          have notEscape : first ≠ '\\' := by
            rintro rfl
            revert atEnd
            decide
          rw [List.nil_append, runFrom_cons notEscape, if_pos atEnd]
  | case2 => exact absurd (continues .dangling (by simp)) id
  | case3 character others ih =>
      have read := @ih (place + 2) fun piece member => continues piece (by simp [member])
      rw [List.cons_append, List.cons_append, runFrom, read]
      rfl
  | case4 character others noLast noEscape ih =>
      have notEscape := ne_backslash_of_cases noLast noEscape
      have inside : endsRun character = false := continues (.bare character) (by simp)
      have read := @ih (place + 1) fun piece member => continues piece (by simp [member])
      rw [List.cons_append, runFrom_cons notEscape, inside, read]
      rfl

/-- What is read as a run goes on with all of its pieces, and is over where the rest begins, by the
recursion of the reading.
-/
theorem continues_of_runFrom {run : List Char} (read : runFrom place text = .ok run)
    : (∀ piece ∈ pieces run, Continues piece) ∧ ∃ rest, text = run ++ rest ∧ EndsRun rest := by
  fun_induction runFrom place text generalizing run with
  | case1 =>
      obtain rfl := Except.ok.inj read
      exact ⟨by simp [pieces], [], rfl, by simp [EndsRun]⟩
  | case2 => cases read
  | case3 place character others ih =>
      obtain ⟨later, found, rfl⟩ := Outcome.map_eq_ok.mp read
      obtain ⟨continues, rest, rfl, ends⟩ := ih found
      exact ⟨by simpa [pieces, Continues] using continues, rest, rfl, ends⟩
  | case4 place character others _ _ atEnd =>
      obtain rfl := Except.ok.inj read
      exact ⟨by simp [pieces], character :: others, rfl, by simpa [EndsRun] using atEnd⟩
  | case5 place character others noLast noEscape inside ih =>
      have notEscape := ne_backslash_of_cases noLast noEscape
      obtain ⟨later, found, rfl⟩ := Outcome.map_eq_ok.mp read
      obtain ⟨continues, rest, rfl, ends⟩ := ih found
      rw [pieces_cons notEscape]
      exact ⟨by simpa [Continues, inside] using continues, rest, rfl, ends⟩

-----------------------------------------------------------------------------------------
-- Quoted terms
-----------------------------------------------------------------------------------------

/-- What stands between quotes is read up to the closing one, by the recursion over its pieces. -/
theorem quotedTextFrom_append (between : ∀ piece ∈ pieces text, IsBetween quote piece)
    (visible : quote ≠ '\\')
    : quotedTextFrom quote opened place (text ++ quote :: rest) = .ok text := by
  fun_induction pieces text generalizing place with
  | case1 => rw [List.nil_append, quotedTextFrom_cons visible, if_pos rfl]
  | case2 => exact absurd rfl (between .dangling (by simp)).1
  | case3 character others ih =>
      have read := @ih (place + 2) fun piece member => between piece (by simp [member])
      rw [List.cons_append, List.cons_append, quotedTextFrom, read]
      rfl
  | case4 character others noLast noEscape ih =>
      have notEscape := ne_backslash_of_cases noLast noEscape
      have inside : character ≠ quote := by
        rintro rfl
        exact (between (.bare character) (by simp)).2 rfl
      have read := @ih (place + 1) fun piece member => between piece (by simp [member])
      rw [List.cons_append, quotedTextFrom_cons notEscape, if_neg inside, read]
      rfl

/-- What is read between quotes goes on with all of its pieces and stands in front of the closing
quote, by the recursion of the reading.
-/
theorem isBetween_of_quotedTextFrom {value : List Char}
    (read : quotedTextFrom quote opened place text = .ok value)
    : (∀ piece ∈ pieces value, IsBetween quote piece) ∧ ∃ rest, text = value ++ quote :: rest := by
  fun_induction quotedTextFrom quote opened place text generalizing value with
  | case1 => cases read
  | case2 => cases read
  | case3 place character others ih =>
      obtain ⟨later, found, rfl⟩ := Outcome.map_eq_ok.mp read
      obtain ⟨between, rest, rfl⟩ := ih found
      exact ⟨by simpa [pieces, IsBetween] using between, rest, rfl⟩
  | case4 =>
      obtain rfl := Except.ok.inj read
      exact ⟨by simp [pieces], _, rfl⟩
  | case5 place character others noLast noEscape inside ih =>
      have notEscape := ne_backslash_of_cases noLast noEscape
      obtain ⟨later, found, rfl⟩ := Outcome.map_eq_ok.mp read
      obtain ⟨between, rest, rfl⟩ := ih found
      rw [pieces_cons notEscape]
      exact ⟨by simpa [IsBetween, inside] using between, rest, rfl⟩

-----------------------------------------------------------------------------------------
-- Runs in lower case
-----------------------------------------------------------------------------------------

theorem isSign_backslash : Text.IsSign '\\' := by
  unfold Text.IsSign
  decide

theorem isSign_quote : Text.IsSign '"' ∧ Text.IsSign '\'' := by
  unfold Text.IsSign
  decide

theorem isSign_of_endsRun (ends : endsRun character = true) : Text.IsSign character := by
  simp only [endsRun, isDelimiter, Bool.or_eq_true, decide_eq_true_eq] at ends
  unfold Text.IsSign
  rcases ends with white | ((((rfl | rfl) | rfl) | rfl) | rfl) | rfl
  · exact .inl white
  all_goals decide

/-- Letters make no backslash and no end of a run. -/
theorem inside_of_not_isSign (letter : ¬ Text.IsSign character)
    : character ≠ '\\' ∧ endsRun character = false := by
  refine ⟨?_, ?_⟩
  · rintro rfl
    exact letter isSign_backslash
  · rw [← Bool.not_eq_true]
    exact fun ends => letter (isSign_of_endsRun ends)

theorem continues_append {front : List Char}
    (inside : ∀ character ∈ front, character ≠ '\\' ∧ endsRun character = false)
    (continues : ∀ piece ∈ pieces rest, Continues piece)
    : ∀ piece ∈ pieces (front ++ rest), Continues piece := by
  rw [pieces_append fun character member => (inside character member).1, List.forall_mem_append]
  refine ⟨?_, continues⟩
  intro piece member
  obtain ⟨character, inFront, rfl⟩ := List.mem_map.mp member
  exact (inside character inFront).2

/-- Characters of which none has a meaning in a query are a run unless a quote is the first. -/
theorem isRun_of_inside (some : text ≠ [])
    (opens : ∀ first ∈ text.head?, first ≠ '"' ∧ first ≠ '\'')
    (inside : ∀ character ∈ text, character ≠ '\\' ∧ endsRun character = false)
    : IsRun text := by
  have continues := @continues_append [] text inside (by simp [pieces])
  rw [List.append_nil] at continues
  exact ⟨some, opens, continues⟩

/-- A run goes on in lower case where it did before: signs stay what they are, and a letter becomes
no sign. Behind a backslash even the first character of what it becomes may be any.
-/
theorem continues_lowercaseFrom {before : List Char}
    (continues : ∀ piece ∈ pieces text, Continues piece)
    : ∀ piece ∈ pieces (Text.lowercaseFrom before text), Continues piece := by
  fun_induction pieces text generalizing before with
  | case1 => exact continues
  | case2 => exact absurd (continues .dangling (by simp)) id
  | case3 character others ih =>
      have later := @ih (character :: '\\' :: before)
        fun piece member => continues piece (by simp [member])
      rw [Text.lowercaseFrom, Text.lowerIn_of_isSign isSign_backslash, List.singleton_append,
        Text.lowercaseFrom]
      by_cases sign : Text.IsSign character
      · rw [Text.lowerIn_of_isSign sign, List.singleton_append, pieces]
        simpa [Continues] using later
      · have letters {form : Char}
            (member : form ∈ Text.lowerIn ('\\' :: before) character others) :=
          inside_of_not_isSign (Text.not_isSign_of_mem_lowerIn sign member)
        cases forms : Text.lowerIn ('\\' :: before) character others with
        | nil => exact absurd forms (Text.lowerIn_ne_nil _ _ _)
        | cons form more =>
            rw [List.cons_append, pieces, List.forall_mem_cons]
            exact ⟨trivial, continues_append
              (fun other member => letters (by simp [forms, member])) later⟩
  | case4 character others noLast noEscape ih =>
      have later := @ih (character :: before)
        fun piece member => continues piece (by simp [member])
      have inside : endsRun character = false := continues (.bare character) (by simp)
      refine continues_append ?_ later
      intro form member
      by_cases sign : Text.IsSign character
      · rw [Text.lowerIn_of_isSign sign, List.mem_singleton] at member
        rw [member]
        exact ⟨ne_backslash_of_cases noLast noEscape, inside⟩
      · exact inside_of_not_isSign (Text.not_isSign_of_mem_lowerIn sign member)

/-- The lower case of a run is a run. A quote cannot have become its first character. -/
theorem IsRun.lowercase {run : String} (isRun : IsRun run.toList)
    : IsRun (Text.lowercase run).toList := by
  obtain ⟨some, opens, continues⟩ := isRun
  rw [Text.lowercase, String.toList_ofList]
  cases whole : run.toList with
  | nil => exact absurd whole some
  | cons first others =>
      refine ⟨?_, ?_, continues_lowercaseFrom (whole ▸ continues)⟩
      · simp [Text.lowercaseFrom, Text.lowerIn_ne_nil]
      · intro form begins
        obtain ⟨lead, more, forms⟩ :=
          List.exists_cons_of_ne_nil (Text.lowerIn_ne_nil [] first others)
        obtain rfl : lead = form := by simpa [Text.lowercaseFrom, forms] using begins
        have member : lead ∈ Text.lowerIn [] first others := by simp [forms]
        have unchanged := (Text.lowerIn_of_mem member).2
        obtain ⟨notDouble, notSingle⟩ := opens first (by simp [whole])
        refine ⟨?_, ?_⟩
        · rintro rfl
          exact notDouble (unchanged isSign_quote.1).symm
        · rintro rfl
          exact notSingle (unchanged isSign_quote.2).symm

end CqlGateway.Vocabulary
