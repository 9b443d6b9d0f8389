import CqlGateway.Term.Escape

/-! How the pieces of a term follow from its text, and when a row of pieces is found again in the
text that it is written as.
-/

namespace CqlGateway.Term

variable {character : Char} {text rest : List Char} {parts : List Piece}

-----------------------------------------------------------------------------------------
-- From the text to its pieces
-----------------------------------------------------------------------------------------

/-- The last case of a recursion over pieces is that of a bare character. -/
theorem ne_backslash_of_cases (noLast : character = '\\' → text = [] → False)
    (noEscape : ∀ next others, character = '\\' → text = next :: others → False)
    : character ≠ '\\' := by
  intro escape
  cases text with
  | nil => exact noLast escape rfl
  | cons next others => exact noEscape next others escape rfl

theorem pieces_cons (notEscape : character ≠ '\\')
    : pieces (character :: rest) = .bare character :: pieces rest := by
  rw [pieces]
  · rintro rfl
    exact absurd rfl notEscape
  · rintro next others rfl
    exact absurd rfl notEscape

theorem bare_backslash_notMem_pieces (text : List Char) : .bare '\\' ∉ pieces text := by
  fun_induction pieces text with
  | case1 => simp
  | case2 => simp
  | case3 character others ih => simpa using ih
  | case4 character others noLast noEscape ih =>
      have notEscape := ne_backslash_of_cases noLast noEscape
      simpa [Ne.symm notEscape] using ih

-----------------------------------------------------------------------------------------
-- From pieces to their text and back
-----------------------------------------------------------------------------------------

/-- A piece that is read as it is, whatever stands behind it. -/
def Piece.IsWhole (piece : Piece) : Prop :=
  piece ≠ .dangling ∧ piece ≠ .bare '\\'

/-- Only a backslash at the end of a text is not whole. -/
theorem isWhole_of_mem_pieces (whole : .dangling ∉ pieces text)
    : ∀ piece ∈ pieces text, piece.IsWhole := by
  intro piece member
  exact ⟨ne_of_mem_of_not_mem member whole,
    ne_of_mem_of_not_mem member (bare_backslash_notMem_pieces text)⟩

theorem dangling_notMem_of_isWhole (whole : ∀ piece ∈ parts, piece.IsWhole)
    : .dangling ∉ parts :=
  fun member => (whole .dangling member).1 rfl

/-- Whole pieces are found again in what they are written as, in front of any text. -/
theorem pieces_written_append (whole : ∀ piece ∈ parts, piece.IsWhole) (rest : List Char)
    : pieces (written parts ++ rest) = parts ++ pieces rest := by
  induction parts with
  | nil => rfl
  | cons piece others ih =>
      obtain ⟨⟨notDangling, notBackslash⟩, later⟩ := List.forall_mem_cons.mp whole
      cases piece with
      | bare character =>
          have notEscape : character ≠ '\\' := by
            rintro rfl
            exact notBackslash rfl
          have text : written (.bare character :: others) ++ rest
              = character :: (written others ++ rest) := by
            rfl
          rw [text, pieces_cons notEscape, ih later]
          rfl
      | escaped character =>
          have text : written (.escaped character :: others) ++ rest
              = '\\' :: character :: (written others ++ rest) := by
            rfl
          rw [text, pieces, ih later]
          rfl
      | dangling => exact absurd rfl notDangling

theorem pieces_written (whole : ∀ piece ∈ parts, piece.IsWhole)
    : pieces (written parts) = parts := by
  have read := pieces_written_append whole []
  rwa [List.append_nil, pieces, List.append_nil] at read

/-- Characters that are no backslash are pieces of their own, whatever stands behind them. -/
theorem pieces_append {front : List Char} (plain : ∀ character ∈ front, character ≠ '\\')
    : pieces (front ++ rest) = front.map .bare ++ pieces rest := by
  have same : written (front.map .bare) = front := by
    simp [written, List.flatMap_map, Piece.written]
  have whole : ∀ piece ∈ front.map Piece.bare, piece.IsWhole := by
    simpa [Piece.IsWhole] using plain
  have read := pieces_written_append whole rest
  rwa [same] at read

/-- A value is told by its pieces. -/
theorem pieces_inj {value other : String}
    : pieces value.toList = pieces other.toList ↔ value = other := by
  constructor
  · intro same
    have text := congrArg written same
    rwa [written_pieces, written_pieces, String.toList_inj] at text
  · rintro rfl
    rfl

-----------------------------------------------------------------------------------------
-- The length of a text and its pieces
-----------------------------------------------------------------------------------------

/-- A row of pieces that takes nothing literally is written as what it means. -/
theorem written_eq_map_meant (bare : ∀ character, .escaped character ∉ parts)
    : written parts = parts.map Piece.meant := by
  induction parts with
  | nil => rfl
  | cons piece others ih =>
      rw [written, List.flatMap_cons, ← written,
        ih fun other member => bare other (List.mem_cons_of_mem piece member)]
      cases piece with
      | bare | dangling => rfl
      | escaped other => exact absurd (List.mem_cons_self ..) (bare other)

theorem length_le_length_written (parts : List Piece) : parts.length ≤ (written parts).length := by
  induction parts with
  | nil => simp
  | cons piece others ih =>
      cases piece <;> simp [written, Piece.written] at ih ⊢ <;> omega

/-- What is taken literally is written with a backslash more than it means. -/
theorem length_lt_length_written (taken : .escaped character ∈ parts)
    : parts.length < (written parts).length := by
  obtain ⟨front, behind, rfl⟩ := List.append_of_mem taken
  have shortFront := length_le_length_written front
  have shortBehind := length_le_length_written behind
  simp only [written, List.flatMap_append, List.flatMap_cons, Piece.written, List.length_append,
    List.length_cons, List.length_nil] at shortFront shortBehind ⊢
  omega

/-- A value means itself if it takes nothing literally. -/
theorem decode_eq_self_iff {value : String}
    : decode value = value ↔ ∀ character, .escaped character ∉ pieces value.toList := by
  constructor
  · intro same character taken
    have longer := length_lt_length_written taken
    have asLong := congrArg (fun decoded => decoded.toList.length) same
    simp only [decode, String.toList_ofList, List.length_map] at asLong
    rw [written_pieces, asLong] at longer
    exact Nat.lt_irrefl _ longer
  · intro bare
    rw [decode, ← written_eq_map_meant bare, written_pieces, String.ofList_toList]

-----------------------------------------------------------------------------------------
-- Wildcards
-----------------------------------------------------------------------------------------

theorem Piece.isWildcard_iff {piece : Piece}
    : piece.isWildcard = true ↔ piece = .bare '*' ∨ piece = .bare '?' := by
  cases piece <;> simp [isWildcard]

theorem hasWildcard_eq_false_iff {value : String}
    : hasWildcard value = false
      ↔ .bare '*' ∉ pieces value.toList ∧ .bare '?' ∉ pieces value.toList := by
  simp only [hasWildcard, List.any_eq_false, Piece.isWildcard_iff]
  grind

end CqlGateway.Term
