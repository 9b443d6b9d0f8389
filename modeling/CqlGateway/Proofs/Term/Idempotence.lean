import CqlGateway.Proofs.Term.Escape

/-! What is written for the engine means what the value means, and is written the same if it is
written again. All of it is shown piece by piece: a value is told by its pieces.
-/

namespace CqlGateway.Term

variable {escaping : Escaping} {needsBackslash : Char → Bool} {character : Char} {piece : Piece}

-----------------------------------------------------------------------------------------
-- Pieces that are written again
-----------------------------------------------------------------------------------------

namespace Piece

@[simp]
theorem meant_literally (needsBackslash : Char → Bool) (character : Char)
    : (literally needsBackslash character).meant = character := by
  unfold literally
  split <;> rfl

@[simp]
theorem meant_inTerm (escaping : Escaping) (piece : Piece)
    : (piece.inTerm escaping).meant = piece.meant := by
  unfold inTerm
  split
  · rfl
  · exact meant_literally isSpecial piece.meant

@[simp]
theorem meant_inPhrase (piece : Piece) : piece.inPhrase.meant = piece.meant :=
  meant_literally isSpecialInPhrase piece.meant

/-- Stars and question marks are special, so that no piece is a wildcard by accident. -/
theorem isWildcard_literally (character : Char)
    : (literally isSpecial character).isWildcard = false := by
  unfold literally
  split
  · rfl
  · next ordinary =>
      rw [← Bool.not_eq_true, isWildcard_iff]
      rintro (same | same)
      all_goals
        rw [bare.inj same] at ordinary
        exact ordinary (by decide)

theorem inTerm_of_isWildcard (wildcard : piece.isWildcard = true)
    : piece.inTerm .masked = piece := by
  simp [inTerm, wildcard]

theorem inTerm_of_not_isWildcard (plain : piece.isWildcard = false) (escaping : Escaping)
    : piece.inTerm escaping = literally isSpecial piece.meant := by
  simp [inTerm, plain]

theorem inTerm_literal (piece : Piece)
    : piece.inTerm .literal = literally isSpecial piece.meant := by
  simp [inTerm]

/-- Wildcards are kept, and all other pieces depend on what they mean alone. -/
theorem inTerm_inTerm (escaping : Escaping) (piece : Piece)
    : (piece.inTerm escaping).inTerm escaping = piece.inTerm escaping := by
  cases wildcard : piece.isWildcard with
  | false =>
      rw [inTerm_of_not_isWildcard wildcard,
        inTerm_of_not_isWildcard (isWildcard_literally piece.meant), meant_literally]
  | true =>
      cases escaping with
      | masked => rw [inTerm_of_isWildcard wildcard, inTerm_of_isWildcard wildcard]
      | literal => rw [inTerm_literal, inTerm_literal, meant_literally]

theorem inPhrase_inPhrase (piece : Piece) : piece.inPhrase.inPhrase = piece.inPhrase := by
  rw [inPhrase, meant_inPhrase, inPhrase]

theorem isWildcard_inTerm_masked (piece : Piece)
    : (piece.inTerm .masked).isWildcard = piece.isWildcard := by
  cases wildcard : piece.isWildcard with
  | true => rw [inTerm_of_isWildcard wildcard, wildcard]
  | false => rw [inTerm_of_not_isWildcard wildcard, isWildcard_literally]

theorem isWildcard_inTerm_literal (piece : Piece)
    : (piece.inTerm .literal).isWildcard = false := by
  rw [inTerm_literal, isWildcard_literally]

/-- A piece is written in one way for both kinds of fields unless it is a wildcard. -/
theorem inTerm_masked_eq_literal_iff
    : piece.inTerm .masked = piece.inTerm .literal ↔ piece.isWildcard = false := by
  constructor
  · intro same
    rw [← isWildcard_inTerm_masked, same, isWildcard_inTerm_literal]
  · intro plain
    rw [inTerm_of_not_isWildcard plain, inTerm_of_not_isWildcard plain]

end Piece

-----------------------------------------------------------------------------------------
-- Values that are written again
-----------------------------------------------------------------------------------------

theorem escape_escape (escaping : Escaping) (value : String)
    : escape escaping (escape escaping value) = escape escaping value := by
  rw [← pieces_inj, pieces_escape, pieces_escape, List.map_map]
  exact List.map_congr_left fun piece _ => piece.inTerm_inTerm escaping

theorem escapePhrase_escapePhrase (value : String)
    : escapePhrase (escapePhrase value) = escapePhrase value := by
  rw [← pieces_inj, pieces_escapePhrase, pieces_escapePhrase, List.map_map]
  exact List.map_congr_left fun piece _ => piece.inPhrase_inPhrase

theorem decode_escape (escaping : Escaping) (value : String)
    : decode (escape escaping value) = decode value := by
  rw [decode, pieces_escape, List.map_map, decode]
  exact congrArg String.ofList (List.map_congr_left fun piece _ => piece.meant_inTerm escaping)

theorem decode_escapePhrase (value : String) : decode (escapePhrase value) = decode value := by
  rw [decode, pieces_escapePhrase, List.map_map, decode]
  exact congrArg String.ofList (List.map_congr_left fun piece _ => piece.meant_inPhrase)

theorem hasWildcard_escape_masked (value : String)
    : hasWildcard (escape .masked value) = hasWildcard value := by
  rw [hasWildcard, pieces_escape, List.any_map, hasWildcard]
  exact congrArg _ (funext Piece.isWildcard_inTerm_masked)

theorem hasWildcard_escape_literal (value : String)
    : hasWildcard (escape .literal value) = false := by
  rw [hasWildcard, pieces_escape, List.any_map, List.any_eq_false]
  intro piece _
  simp [Piece.isWildcard_inTerm_literal]

/-- What is written for the two kinds of fields differs by the wildcards of the value. -/
theorem escape_masked_eq_literal_iff {value : String}
    : escape .masked value = escape .literal value ↔ hasWildcard value = false := by
  rw [← pieces_inj, pieces_escape, pieces_escape, List.map_inj_left, hasWildcard,
    List.any_eq_false]
  simp only [Piece.inTerm_masked_eq_literal_iff, Bool.not_eq_true]

/-- Writing a value for the engine changes nothing that it means, and writing it again changes
nothing at all. A value means itself unless a backslash takes something in it literally, and its
wildcards are the stars and question marks that none takes.
-/
theorem escape_idempotent_transparent (value : String)
    : (∀ escaping,
        escape escaping (escape escaping value) = escape escaping value
        ∧ decode (escape escaping value) = decode value)
      ∧ escapePhrase (escapePhrase value) = escapePhrase value
      ∧ decode (escapePhrase value) = decode value
      ∧ hasWildcard (escape .masked value) = hasWildcard value
      ∧ hasWildcard (escape .literal value) = false
      ∧ (escape .masked value = escape .literal value ↔ hasWildcard value = false)
      ∧ (decode value = value ↔ ∀ character, .escaped character ∉ pieces value.toList)
      ∧ (hasWildcard value = false
        ↔ .bare '*' ∉ pieces value.toList ∧ .bare '?' ∉ pieces value.toList) :=
  ⟨
    fun escaping => ⟨escape_escape escaping value, decode_escape escaping value⟩,
    escapePhrase_escapePhrase value,
    decode_escapePhrase value,
    hasWildcard_escape_masked value,
    hasWildcard_escape_literal value,
    escape_masked_eq_literal_iff,
    decode_eq_self_iff,
    hasWildcard_eq_false_iff
  ⟩

end CqlGateway.Term
