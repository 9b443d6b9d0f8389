import Mathlib.Data.List.TakeDrop
import CqlGateway.Proofs.Term.Pieces

/-! Which pieces a value has when it is written for the engine: each of its own pieces becomes one,
with a backslash only where a character needs it.
-/

namespace CqlGateway.Term

variable {escaping : Escaping} {needsBackslash : Char → Bool} {text : List Char}

-----------------------------------------------------------------------------------------
-- Pieces as they are written for the engine
-----------------------------------------------------------------------------------------

namespace Piece

/-- The piece that stands for a character where some characters need a backslash. -/
def literally (needsBackslash : Char → Bool) (character : Char) : Piece :=
  if needsBackslash character then .escaped character else .bare character

/-- A piece of a value as a piece of a term. -/
def inTerm (escaping : Escaping) (piece : Piece) : Piece :=
  if piece.isWildcard && escaping = .masked then piece else literally isSpecial piece.meant

/-- True of the characters that have a meaning between quotes. -/
def isSpecialInPhrase (character : Char) : Bool :=
  character = '"' || character = '\\'

/-- A piece of a value as a piece of a phrase. -/
def inPhrase (piece : Piece) : Piece :=
  literally isSpecialInPhrase piece.meant

theorem written_inTerm (escaping : Escaping) (piece : Piece)
    : (piece.inTerm escaping).written = escapePiece escaping piece := by
  unfold inTerm escapePiece literally literalChar
  split
  · rfl
  · split <;> rfl

theorem written_inPhrase (piece : Piece) : piece.inPhrase.written = phraseChar piece.meant := by
  unfold inPhrase literally phraseChar isSpecialInPhrase
  split <;> rfl

/-- Where a backslash needs a backslash, every piece is read as it is. -/
theorem isWhole_literally (backslash : needsBackslash '\\' = true) (character : Char)
    : (literally needsBackslash character).IsWhole := by
  unfold literally
  split
  · exact ⟨by simp, by simp⟩
  · next plain =>
      refine ⟨by simp, ?_⟩
      rintro ⟨⟩
      exact plain backslash

theorem isWhole_inTerm (escaping : Escaping) (piece : Piece) : (piece.inTerm escaping).IsWhole := by
  unfold inTerm
  split
  · next wildcard =>
      have star : piece.isWildcard = true := (Bool.and_eq_true_iff.mp wildcard).1
      rcases isWildcard_iff.mp star with rfl | rfl
      all_goals simp [IsWhole]
  · exact isWhole_literally (by decide) piece.meant

end Piece

/-- Whole pieces that a value's pieces become are found again, in front of any text. -/
theorem pieces_flatMap_append {form : Piece → Piece} {write : Piece → List Char}
    (written_form : ∀ piece, (form piece).written = write piece)
    (whole : ∀ piece, (form piece).IsWhole) (parts : List Piece) (rest : List Char)
    : pieces (parts.flatMap write ++ rest) = parts.map form ++ pieces rest := by
  have same : parts.flatMap write = written (parts.map form) := by
    simp only [written, List.flatMap_map, written_form]
  rw [same]
  refine pieces_written_append (fun piece member => ?_) rest
  obtain ⟨own, -, rfl⟩ := List.mem_map.mp member
  exact whole own

theorem pieces_escape (escaping : Escaping) (value : String)
    : pieces (escape escaping value).toList
      = (pieces value.toList).map (Piece.inTerm escaping) := by
  have read := pieces_flatMap_append (Piece.written_inTerm escaping)
    (Piece.isWhole_inTerm escaping) (pieces value.toList) []
  simpa [escape, pieces] using read

theorem pieces_escapePhrase_append (value : String) (rest : List Char)
    : pieces ((escapePhrase value).toList ++ rest)
      = (pieces value.toList).map Piece.inPhrase ++ pieces rest := by
  rw [escapePhrase, String.toList_ofList]
  exact pieces_flatMap_append Piece.written_inPhrase
    (fun piece => Piece.isWhole_literally (by decide) piece.meant) _ rest

theorem pieces_escapePhrase (value : String)
    : pieces (escapePhrase value).toList = (pieces value.toList).map Piece.inPhrase := by
  simpa [pieces] using pieces_escapePhrase_append value []

-----------------------------------------------------------------------------------------
-- Terms
-----------------------------------------------------------------------------------------

/-- True of a piece that does in a term what it is there for: a special character or white space is
taken literally unless it is a wildcard where there are any, and nothing else is.
-/
def Piece.IsGuarded (escaping : Escaping) : Piece → Prop
  | .bare character =>
      isSpecial character = true → escaping = .masked ∧ (character = '*' ∨ character = '?')
  | .escaped character => isSpecial character = true
  | .dangling => False

/-- A text of which each piece does in a term what it is there for. -/
def IsGuarded (escaping : Escaping) (text : String) : Prop :=
  ∀ piece ∈ pieces text.toList, piece.IsGuarded escaping

theorem Piece.isGuarded_literally (escaping : Escaping) (character : Char)
    : (literally isSpecial character).IsGuarded escaping := by
  unfold literally
  split
  · next special => exact special
  · next ordinary => exact fun special => absurd special ordinary

theorem Piece.isGuarded_inTerm (escaping : Escaping) (piece : Piece)
    : (piece.inTerm escaping).IsGuarded escaping := by
  unfold inTerm
  split
  · next wildcard =>
      obtain ⟨star, masked⟩ := Bool.and_eq_true_iff.mp wildcard
      rcases isWildcard_iff.mp star with rfl | rfl
      all_goals exact fun _ => ⟨of_decide_eq_true masked, by simp⟩
  · exact isGuarded_literally escaping piece.meant

theorem isGuarded_escape (escaping : Escaping) (value : String)
    : IsGuarded escaping (escape escaping value) := by
  intro piece member
  rw [pieces_escape] at member
  obtain ⟨own, -, rfl⟩ := List.mem_map.mp member
  exact own.isGuarded_inTerm escaping

-----------------------------------------------------------------------------------------
-- Phrases
-----------------------------------------------------------------------------------------

/-- Text between quotes, with what stands behind it: of all quotes that are not taken literally, the
first one is the one behind the text. Backslashes take special characters only.
-/
structure IsEnclosed (inside behind : String) : Prop where
  closing
    : (pieces (inside ++ "\"" ++ behind).toList).span (· ≠ .bare '"')
      = (pieces inside.toList, .bare '"' :: pieces behind.toList)
  special : ∀ character, .escaped character ∈ pieces inside.toList → isSpecial character = true
  no_dangling : .dangling ∉ pieces inside.toList

theorem Piece.special_of_inPhrase_eq {piece : Piece} {character : Char}
    (taken : piece.inPhrase = .escaped character)
    : isSpecial character = true := by
  unfold inPhrase literally at taken
  split at taken
  · next meaning =>
      cases taken
      rcases (by simpa [isSpecialInPhrase] using meaning : piece.meant = '"' ∨ piece.meant = '\\')
        with same | same
      all_goals
        rw [same]
        decide
  · cases taken

theorem Piece.inPhrase_ne_quote (piece : Piece) : piece.inPhrase ≠ .bare '"' := by
  unfold inPhrase literally
  split
  · simp
  · next plain =>
      intro quote
      rw [Piece.bare.inj quote] at plain
      exact plain (by decide)

theorem isEnclosed_escapePhrase (value behind : String)
    : IsEnclosed (escapePhrase value) behind where
  closing := by
    have text : (escapePhrase value ++ "\"" ++ behind).toList
        = (escapePhrase value).toList ++ '"' :: behind.toList := by
      simp
    have inside : ∀ piece ∈ (pieces value.toList).map Piece.inPhrase, piece ≠ .bare '"' := by
      intro piece member
      obtain ⟨own, -, rfl⟩ := List.mem_map.mp member
      exact own.inPhrase_ne_quote
    rw [text, pieces_escapePhrase_append, pieces_escapePhrase, pieces_cons (by decide),
      List.span_eq_takeWhile_dropWhile, List.takeWhile_append_of_pos (by simpa using inside),
      List.dropWhile_append_of_pos (by simpa using inside)]
    simp
  special := by
    intro character member
    rw [pieces_escapePhrase] at member
    obtain ⟨own, -, taken⟩ := List.mem_map.mp member
    exact Piece.special_of_inPhrase_eq taken
  no_dangling := by
    rw [pieces_escapePhrase]
    refine dangling_notMem_of_isWhole fun piece member => ?_
    obtain ⟨own, -, rfl⟩ := List.mem_map.mp member
    exact Piece.isWhole_literally (by decide) own.meant

end CqlGateway.Term
