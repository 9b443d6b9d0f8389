import Mathlib.Data.List.Infix
import CqlGateway.Proofs.Term.Pieces
import CqlGateway.Term.Escape

/-! How the engine matches a term: a backslash takes the next character literally, a bare star
stands for any text and a bare question mark for any character. What a value asks for in this way
follows from its pieces.
-/

namespace CqlGateway.EngineText

/-- What a part of a term asks of the text that it is matched with. -/
inductive PatternPart where
  | literal (character : Char)
  | anyChar
  | anyText
deriving DecidableEq

/-- The parts of a term as it is written. -/
def patternOf : List Char → List PatternPart
  | [] => []
  | '\\' :: character :: rest => .literal character :: patternOf rest
  | '*' :: rest => .anyText :: patternOf rest
  | '?' :: rest => .anyChar :: patternOf rest
  | character :: rest => .literal character :: patternOf rest

/-- True of the texts that the parts match one after the other. -/
def accepts : List PatternPart → List Char → Bool
  | [], text => text.isEmpty
  | .anyText :: rest, text => text.tails.any (accepts rest)
  | .literal _ :: _, [] => false
  | .literal character :: rest, first :: text => first = character && accepts rest text
  | .anyChar :: _, [] => false
  | .anyChar :: rest, _ :: text => accepts rest text

variable {parts : List PatternPart} {text : List Char} {escaping : Escaping} {value : String}

-----------------------------------------------------------------------------------------
-- What patterns accept
-----------------------------------------------------------------------------------------

/-- Literal parts accept themselves only. -/
@[simp]
theorem accepts_map_literal {literals : List Char}
    : accepts (literals.map .literal) text = true ↔ text = literals := by
  induction literals generalizing text with
  | nil => simp [accepts]
  | cons character rest ih =>
      cases text with
      | nil => simp [accepts]
      | cons first others => simp [accepts, ih]

/-- Without a star, a text is as long as the pattern. -/
theorem length_eq_of_accepts (exact : .anyText ∉ parts) (accepted : accepts parts text = true)
    : text.length = parts.length := by
  fun_induction accepts parts text with
  | case1 => simpa using accepted
  | case2 => simp at exact
  | case3 | case5 => cases accepted
  | case4 character rest first others ih =>
      simp_all
  | case6 => simp_all

theorem accepts_anyText (front : List Char) (accepted : accepts parts text = true)
    : accepts (.anyText :: parts) (front ++ text) = true := by
  rw [accepts, List.any_eq_true]
  exact ⟨text, (List.mem_tails text _).mpr (List.suffix_append front text), accepted⟩

theorem exists_accepts (parts : List PatternPart) : ∃ text, accepts parts text = true := by
  induction parts with
  | nil => exact ⟨[], rfl⟩
  | cons part rest ih =>
      obtain ⟨text, accepted⟩ := ih
      cases part with
      | literal character => exact ⟨character :: text, by simpa [accepts] using accepted⟩
      | anyChar => exact ⟨'*' :: text, by simpa [accepts] using accepted⟩
      | anyText => exact ⟨text, accepts_anyText [] accepted⟩

/-- With a star, texts are accepted however long they are to be. -/
theorem exists_accepts_longer (star : .anyText ∈ parts) (length : Nat)
    : ∃ text, accepts parts text = true ∧ length ≤ text.length := by
  induction parts with
  | nil => cases star
  | cons part rest ih =>
      cases part with
      | anyText =>
          obtain ⟨text, accepted⟩ := exists_accepts rest
          refine ⟨List.replicate length '*' ++ text, accepts_anyText _ accepted, ?_⟩
          simp
      | literal character =>
          obtain ⟨text, accepted, longer⟩ := ih (by simpa using star)
          refine ⟨character :: text, by simpa [accepts] using accepted, ?_⟩
          exact longer.trans (by simp)
      | anyChar =>
          obtain ⟨text, accepted, longer⟩ := ih (by simpa using star)
          refine ⟨'*' :: text, by simpa [accepts] using accepted, ?_⟩
          exact longer.trans (by simp)

-----------------------------------------------------------------------------------------
-- Patterns of values
-----------------------------------------------------------------------------------------

/-- What a piece of a value asks of the text. -/
def partOf (escaping : Escaping) (piece : Term.Piece) : PatternPart :=
  if escaping = .masked then
    match piece with
    | .bare '*' => .anyText
    | .bare '?' => .anyChar
    | piece => .literal piece.meant
  else
    .literal piece.meant

/-- What a value asks of the text. -/
def valuePattern (escaping : Escaping) (value : String) : List PatternPart :=
  (Term.pieces value.toList).map (partOf escaping)

theorem partOf_eq_anyText {piece : Term.Piece}
    : partOf escaping piece = .anyText ↔ escaping = .masked ∧ piece = .bare '*' := by
  fun_cases partOf escaping piece <;> simp_all

theorem partOf_eq_anyChar {piece : Term.Piece}
    : partOf escaping piece = .anyChar ↔ escaping = .masked ∧ piece = .bare '?' := by
  fun_cases partOf escaping piece <;> simp_all

theorem partOf_eq_literal {piece : Term.Piece} (noText : partOf escaping piece ≠ .anyText)
    (noChar : partOf escaping piece ≠ .anyChar)
    : partOf escaping piece = .literal piece.meant := by
  fun_cases partOf escaping piece <;> simp_all [partOf]

theorem anyText_mem_valuePattern
    : .anyText ∈ valuePattern escaping value
      ↔ escaping = .masked ∧ .bare '*' ∈ Term.pieces value.toList := by
  simp only [valuePattern, List.mem_map, partOf_eq_anyText]
  grind

theorem anyChar_mem_valuePattern
    : .anyChar ∈ valuePattern escaping value
      ↔ escaping = .masked ∧ .bare '?' ∈ Term.pieces value.toList := by
  simp only [valuePattern, List.mem_map, partOf_eq_anyChar]
  grind

-----------------------------------------------------------------------------------------
-- Values as they are written
-----------------------------------------------------------------------------------------

/-- The characters that are read in a way of their own are special. -/
theorem ne_of_ordinary {character : Char} (ordinary : Term.isSpecial character = false)
    : character ≠ '\\' ∧ character ≠ '*' ∧ character ≠ '?' := by
  refine ⟨?_, ?_, ?_⟩
  all_goals
    rintro rfl
    exact absurd ordinary (by decide)

/-- The text is read part by part: literal characters, stars and question marks each add their part
to what is read behind them.
-/
structure ReadsParts {α : Type} (read : List Char → α) (add : PatternPart → α → α) : Prop where
  escaped : ∀ character rest,
    read ('\\' :: character :: rest) = add (.literal character) (read rest)
  ordinary : ∀ character rest,
    Term.isSpecial character = false
    → read (character :: rest) = add (.literal character) (read rest)
  star : ∀ rest, read ('*' :: rest) = add .anyText (read rest)
  mark : ∀ rest, read ('?' :: rest) = add .anyChar (read rest)

namespace ReadsParts

variable {α : Type} {read : List Char → α} {add : PatternPart → α → α}

theorem literalChar_append (reads : ReadsParts read add) (character : Char) (rest : List Char)
    : read (Term.literalChar character ++ rest) = add (.literal character) (read rest) := by
  unfold Term.literalChar
  split
  · exact reads.escaped character rest
  · next ordinary => exact reads.ordinary character rest (by simpa using ordinary)

/-- A piece that is written out is read as what it asks, whatever stands behind it. -/
theorem escapePiece_append (reads : ReadsParts read add) (escaping : Escaping) (piece : Term.Piece)
    (rest : List Char)
    : read (Term.escapePiece escaping piece ++ rest)
      = add (partOf escaping piece) (read rest) := by
  have literal := reads.literalChar_append piece.meant rest
  fun_cases partOf escaping piece with
  | case1 masked =>
      subst masked
      exact reads.star rest
  | case2 masked =>
      subst masked
      exact reads.mark rest
  | case3 =>
      have bare : piece.isWildcard = false := by cases piece <;> simp_all [Term.Piece.isWildcard]
      rwa [Term.escapePiece, bare]
  | case4 =>
      rwa [Term.escapePiece, if_neg (by simp [*])]

/-- A value that is written out is read as its pieces ask. -/
theorem escape_append (reads : ReadsParts read add) (escaping : Escaping) (value : String)
    (rest : List Char)
    : read ((Term.escape escaping value).toList ++ rest)
      = (valuePattern escaping value).foldr add (read rest) := by
  rw [Term.escape, String.toList_ofList, valuePattern]
  induction Term.pieces value.toList with
  | nil => rfl
  | cons piece others ih =>
      rw [List.flatMap_cons, List.append_assoc, reads.escapePiece_append, ih, List.map_cons,
        List.foldr_cons]

end ReadsParts

theorem readsParts_patternOf : ReadsParts patternOf List.cons where
  escaped character rest := by rfl
  ordinary character rest ordinary := by
    obtain ⟨notEscape, notStar, notMark⟩ := ne_of_ordinary ordinary
    rw [patternOf]
    all_goals simp [notEscape, notStar, notMark]
  star rest := by rfl
  mark rest := by rfl

theorem patternOf_escape (escaping : Escaping) (value : String)
    : patternOf (Term.escape escaping value).toList = valuePattern escaping value := by
  have read := readsParts_patternOf.escape_append escaping value []
  rwa [List.append_nil, patternOf, List.foldr_cons_nil] at read

end CqlGateway.EngineText
