import CqlGateway.Proofs.Query.Run
import CqlGateway.Term.Escape

/-! Terms in whose text each bare double quote has a backslash before it, as they are displayed
between double quotes.
-/

namespace CqlGateway.Term

/-- A bare double quote gets a backslash, all else stays as it is. -/
def Piece.withMaskedQuote : Piece → Piece
  | .bare '"' => .escaped '"'
  | piece => piece

theorem Piece.withMaskedQuote_of_ne {piece : Piece} (other : piece ≠ .bare '"')
    : piece.withMaskedQuote = piece := by
  unfold Piece.withMaskedQuote
  split
  · exact absurd rfl other
  · rfl

/-- The value with a backslash before each bare double quote. -/
def withMaskedQuotes (value : String) : String :=
  String.ofList (written ((pieces value.toList).map Piece.withMaskedQuote))

theorem quoted_eq (value : String) : quoted value = "\"" ++ withMaskedQuotes value ++ "\"" := by
  have each (piece : Piece) : quotedPiece piece = piece.withMaskedQuote.written := by
    unfold quotedPiece
    split
    · rfl
    · next other => rw [Piece.withMaskedQuote_of_ne other]
  simp only [quoted, withMaskedQuotes, written, List.flatMap_map, funext each]

theorem Piece.IsWhole.withMaskedQuote {piece : Piece} (whole : piece.IsWhole)
    : piece.withMaskedQuote.IsWhole ∧ piece.withMaskedQuote ≠ .bare '"' := by
  by_cases quote : piece = .bare '"'
  · rw [quote]
    simp [Piece.withMaskedQuote, IsWhole]
  · rw [Piece.withMaskedQuote_of_ne quote]
    exact ⟨whole, quote⟩

variable {value : String}

/-- The pieces with masked quotes, if no backslash stands alone at the end. -/
theorem pieces_withMaskedQuotes (whole : .dangling ∉ pieces value.toList)
    : pieces (withMaskedQuotes value).toList = (pieces value.toList).map Piece.withMaskedQuote := by
  rw [withMaskedQuotes, String.toList_ofList]
  refine pieces_written ?_
  simp only [List.forall_mem_map]
  intro piece member
  exact (isWhole_of_mem_pieces whole piece member).withMaskedQuote.1

/-- A value with masked quotes can stand between double quotes. -/
theorem isBetween_withMaskedQuotes (whole : .dangling ∉ pieces value.toList)
    : ∀ piece ∈ pieces (withMaskedQuotes value).toList, Vocabulary.IsBetween '"' piece := by
  rw [pieces_withMaskedQuotes whole]
  simp only [List.forall_mem_map]
  intro piece member
  have masked := (isWhole_of_mem_pieces whole piece member).withMaskedQuote
  exact ⟨masked.1.1, masked.2⟩

/-- Masked quotes are not masked again. -/
theorem withMaskedQuotes_withMaskedQuotes (whole : .dangling ∉ pieces value.toList)
    : withMaskedQuotes (withMaskedQuotes value) = withMaskedQuotes value := by
  have each (piece : Piece) : piece.withMaskedQuote.withMaskedQuote = piece.withMaskedQuote := by
    by_cases quote : piece = .bare '"'
    · rw [quote]
      rfl
    · rw [Piece.withMaskedQuote_of_ne quote, Piece.withMaskedQuote_of_ne quote]
  rw [withMaskedQuotes, pieces_withMaskedQuotes whole, List.map_map]
  simp only [Function.comp_def, each]
  rfl

end CqlGateway.Term
