import CqlGateway.Proofs.Term.Words

/-! The words of a term are the only way to part it at blanks. They are found again when they are
joined, and behind a term that has no lone backslash white space begins new words.
-/

namespace CqlGateway.Term

variable {parts front behind : List Piece} {piece : Piece} {value : String}

-----------------------------------------------------------------------------------------
-- Rows of pieces that are read
-----------------------------------------------------------------------------------------

/-- The row is found again in what it is written as, with a lone backslash at its end at most. -/
def AreRead (parts : List Piece) : Prop :=
  pieces (written parts) = parts

theorem areRead_pieces (text : List Char) : AreRead (pieces text) := by
  rw [AreRead, written_pieces]

theorem written_eq_nil_iff : written parts = [] ↔ parts = [] := by
  have shorter := length_le_length_written parts
  constructor
  · intro none
    rw [none] at shorter
    exact List.length_eq_zero_iff.mp (Nat.le_zero.mp shorter)
  · rintro rfl
    rfl

/-- A row that is read goes on behind its first piece with a row that is read, and ends there if
that piece is a lone backslash.
-/
theorem areRead_cons_iff
    : AreRead (piece :: parts)
      ↔ piece.IsWhole ∧ AreRead parts ∨ piece = .dangling ∧ parts = [] := by
  constructor
  · intro read
    cases piece with
    | bare character =>
        have notEscape : character ≠ '\\' := by
          rintro rfl
          have member := bare_backslash_notMem_pieces (written (.bare '\\' :: parts))
          rw [read] at member
          exact member List.mem_cons_self
        have rest : pieces (character :: written parts) = .bare character :: parts := read
        rw [pieces_cons notEscape] at rest
        exact .inl ⟨by simp [Piece.IsWhole, notEscape], (List.cons.inj rest).2⟩
    | escaped character =>
        have rest : pieces ('\\' :: character :: written parts) = .escaped character :: parts :=
          read
        exact .inl ⟨by simp [Piece.IsWhole], (List.cons.inj rest).2⟩
    | dangling =>
        have rest : pieces ('\\' :: written parts) = .dangling :: parts := read
        refine .inr ⟨rfl, written_eq_nil_iff.mp ?_⟩
        cases text : written parts with
        | nil => rfl
        | cons character others =>
            rw [text, pieces] at rest
            cases (List.cons.inj rest).1
  · rintro (⟨whole, rest⟩ | ⟨rfl, rfl⟩)
    · have first := pieces_written_append (List.forall_mem_singleton.mpr whole) (written parts)
      rw [rest] at first
      simpa [AreRead, written] using first
    · rfl

/-- Both parts of a row that is read are read, the first one whatever stands behind it. -/
theorem areRead_append_iff (some : behind ≠ [])
    : AreRead (front ++ behind) ↔ (∀ piece ∈ front, piece.IsWhole) ∧ AreRead behind := by
  induction front with
  | nil => simp
  | cons piece others ih =>
      rw [List.cons_append, areRead_cons_iff, ih, List.forall_mem_cons, and_assoc]
      simp [some]

theorem areRead_of_isWhole (whole : ∀ piece ∈ parts, piece.IsWhole) : AreRead parts :=
  pieces_written whole

theorem AreRead.of_append (read : AreRead (front ++ behind)) : AreRead front ∧ AreRead behind := by
  by_cases none : behind = []
  · subst none
    rw [List.append_nil] at read
    exact ⟨read, rfl⟩
  · obtain ⟨whole, rest⟩ := (areRead_append_iff none).mp read
    exact ⟨areRead_of_isWhole whole, rest⟩

-----------------------------------------------------------------------------------------
-- Splits of pieces
-----------------------------------------------------------------------------------------

theorem wordPieces_of_areBlank (blank : AreBlank parts) : wordPieces parts = [] := by
  have none := @wordPieces_append_blank [] parts blank
  rwa [List.nil_append] at none

section Rows

variable {words : List (List Piece)}

/-- The row consists of these words, in order, with blanks between neighbours and perhaps around
them.
-/
inductive IsParted : List Piece → List (List Piece) → Prop where
  | blank {parts : List Piece} (blank : AreBlank parts) : IsParted parts []
  | word {lead word rest : List Piece} {words : List (List Piece)} (leading : AreBlank lead)
    (isWord : IsWord word) (ends : ∀ next ∈ rest.head?, next.isBlank = true)
    (others : IsParted rest words)
    : IsParted (lead ++ (word ++ rest)) (word :: words)

namespace IsParted

theorem cons_blank (isBlank : piece.isBlank = true) (parted : IsParted parts words)
    : IsParted (piece :: parts) words := by
  cases parted with
  | blank blank => exact .blank (List.forall_mem_cons.mpr ⟨isBlank, blank⟩)
  | @word lead _ _ _ leading isWord ends others =>
      have longer : AreBlank (piece :: lead) := List.forall_mem_cons.mpr ⟨isBlank, leading⟩
      exact .word longer isWord ends others

/-- What stands in front of the first blank is a word, unless the row begins with that blank. -/
theorem prepend {lead rest : List Piece} (visible : ∀ piece ∈ lead, piece.isBlank = false)
    (ends : ∀ next ∈ rest.head?, next.isBlank = true) (others : IsParted rest words)
    : IsParted (lead ++ rest) (Term.consWord lead words) := by
  unfold Term.consWord
  split
  · next none => rwa [List.isEmpty_iff.mp none]
  · next some =>
      have leading : AreBlank [] := by simp [AreBlank]
      have isWord : IsWord lead := ⟨by simpa using some, visible⟩
      exact .word leading isWord ends others

theorem forall_isWord (parted : IsParted parts words) : ∀ word ∈ words, IsWord word := by
  induction parted with
  | blank => simp
  | word _ isWord _ _ ih => exact List.forall_mem_cons.mpr ⟨isWord, ih⟩

/-- There is only one way to part a row. -/
theorem eq_wordPieces (parted : IsParted parts words) : words = wordPieces parts := by
  induction parted with
  | blank blank => exact (wordPieces_of_areBlank blank).symm
  | @word lead word rest words leading isWord ends others ih =>
      rw [wordPieces_blank_append leading, ih]
      cases rest with
      | nil =>
          rw [List.append_nil, wordPieces_of_isWord isWord]
          rfl
      | cons next rest =>
          have isBlank := ends next rfl
          rw [wordPieces_append isBlank, wordPieces_of_isWord isWord, wordPieces_of_blank isBlank]
          rfl

/-- The words of a row that is read are read. -/
theorem areRead (parted : IsParted parts words) (read : AreRead parts)
    : ∀ word ∈ words, AreRead word := by
  induction parted with
  | blank => simp
  | word _ _ _ _ ih =>
      obtain ⟨first, rest⟩ := read.of_append.2.of_append
      exact List.forall_mem_cons.mpr ⟨first, ih rest⟩

/-- Only behind the last word may a lone backslash stand, so the words are read with a space between
neighbours.
-/
theorem areRead_intercalate (parted : IsParted parts words) (read : AreRead parts)
    : AreRead ([.bare ' '].intercalate words) := by
  induction parted with
  | blank => rfl
  | @word lead word rest words _ _ _ others ih =>
      have behindLead := read.of_append.2
      cases words with
      | nil =>
          rw [List.intercalate_singleton]
          exact behindLead.of_append.1
      | cons next more =>
          have some : rest ≠ [] := by
            rintro rfl
            cases others.eq_wordPieces
          obtain ⟨whole, readRest⟩ := (areRead_append_iff some).mp behindLead
          have space : (Piece.bare ' ').IsWhole := by simp [Piece.IsWhole]
          rw [List.intercalate_cons_cons, List.append_assoc, List.singleton_append,
            areRead_append_iff (by simp), areRead_cons_iff]
          exact ⟨whole, .inl ⟨space, ih readRest⟩⟩

end IsParted

/-- In front of the first blank stands a part of a word, and the rest is parted by the other words,
by the recursion that finds them.
-/
theorem exists_rest_of_breakWords (parts : List Piece)
    : ∃ rest,
        parts = (breakWords parts).1 ++ rest
        ∧ (∀ piece ∈ (breakWords parts).1, piece.isBlank = false)
        ∧ (∀ next ∈ rest.head?, next.isBlank = true)
        ∧ IsParted rest (breakWords parts).2 := by
  induction parts with
  | nil => exact ⟨[], rfl, by simp [breakWords], by simp, .blank (by simp [AreBlank])⟩
  | cons piece others ih =>
      obtain ⟨rest, same, visible, ends, parted⟩ := ih
      cases kind : piece.isBlank with
      | false =>
          rw [breakWords_of_visible kind]
          refine ⟨rest, congrArg (piece :: ·) same, ?_, ends, parted⟩
          exact List.forall_mem_cons.mpr ⟨kind, visible⟩
      | true =>
          rw [breakWords_of_blank kind]
          have words := IsParted.prepend visible ends parted
          rw [← same] at words
          exact ⟨piece :: others, rfl, by simp, by simpa using kind, words.cons_blank kind⟩

theorem isParted_wordPieces (parts : List Piece) : IsParted parts (wordPieces parts) := by
  obtain ⟨rest, same, visible, ends, parted⟩ := exists_rest_of_breakWords parts
  have words := IsParted.prepend visible ends parted
  rwa [← same] at words

theorem isParted_iff : IsParted parts words ↔ words = wordPieces parts := by
  refine ⟨IsParted.eq_wordPieces, ?_⟩
  rintro rfl
  exact isParted_wordPieces parts

end Rows

-----------------------------------------------------------------------------------------
-- Splits of values
-----------------------------------------------------------------------------------------

/-- The value consists of these words, in order, with white space that is not taken literally
between neighbours and perhaps around them.
-/
def IsSplit (value : String) (words : List String) : Prop :=
  IsParted (pieces value.toList) (words.map fun word => pieces word.toList)

theorem pieces_text_of_areRead (read : AreRead parts) : pieces (text parts).toList = parts := by
  rw [text, String.toList_ofList, read]

theorem map_pieces_words (value : String)
    : ((words value).map fun word => pieces word.toList) = wordPieces (pieces value.toList) := by
  have each := (isParted_wordPieces _).areRead (areRead_pieces value.toList)
  rw [words_eq, List.map_map]
  have same := List.map_congr_left fun word member => pieces_text_of_areRead (each word member)
  exact same.trans (List.map_id _)

theorem isSplit_iff {split : List String} : IsSplit value split ↔ split = words value := by
  have injective : Function.Injective fun word : String => pieces word.toList :=
    fun _ _ same => pieces_inj.mp same
  rw [IsSplit, isParted_iff, ← map_pieces_words, injective.list_map.eq_iff]

/-- Words are joined by single spaces, and these part them again. -/
theorem words_joinWords (value : String) : words (joinWords (words value)) = words value := by
  have parted := isParted_wordPieces (pieces value.toList)
  have read := parted.areRead_intercalate (areRead_pieces value.toList)
  rw [words_eq (joinWords _), words_eq value, joinWords_map_text, pieces_text_of_areRead read,
    wordPieces_intercalate (by decide) parted.forall_isWord]

/-- Behind a value that does not take it literally, white space ends all words of the value. -/
theorem words_append {space behind : String} (whole : .dangling ∉ pieces value.toList)
    (some : space ≠ "") (white : Text.isBlank space.toList = true)
    : words (value ++ space ++ behind) = words value ++ words behind := by
  rw [Text.isBlank, List.all_eq_true] at white
  have plain : ∀ character ∈ space.toList, character ≠ '\\' := by
    rintro character member rfl
    exact absurd (white _ member) (by decide)
  have parted : pieces (value ++ space ++ behind).toList
      = pieces value.toList ++ (space.toList.map .bare ++ pieces behind.toList) := by
    rw [← pieces_append plain, ← pieces_written_append (isWhole_of_mem_pieces whole),
      written_pieces, String.toList_append, String.toList_append, List.append_assoc]
  have blank : AreBlank (space.toList.map .bare) := by simpa [AreBlank, Piece.isBlank] using white
  simp only [words_eq, ← List.map_append, parted]
  cases characters : space.toList with
  | nil => exact absurd (String.toList_eq_nil_iff.mp characters) some
  | cons first others =>
      rw [characters, List.map_cons] at blank
      obtain ⟨isBlank, later⟩ := List.forall_mem_cons.mp blank
      rw [List.map_cons, List.cons_append, wordPieces_append isBlank, wordPieces_blank_append later]

/-- The words of a value are its only split at white space that is not taken literally. They are
found again when they are joined, and so are the words of values that white space stands between.
-/
theorem words_only_split (value : String)
    : (∀ split, IsSplit value split ↔ split = words value)
      ∧ (∀ word ∈ words value,
        word ≠ "" ∧ ∀ piece ∈ pieces word.toList, piece.isBlank = false)
      ∧ words (joinWords (words value)) = words value
      ∧ ∀ space behind,
        .dangling ∉ pieces value.toList
        → space ≠ ""
        → Text.isBlank space.toList = true
        → words (value ++ space ++ behind) = words value ++ words behind := by
  refine ⟨fun split => isSplit_iff, ?_, words_joinWords value, ?_⟩
  · have each := (isSplit_iff.mpr rfl : IsSplit value (words value)).forall_isWord
    intro word member
    obtain ⟨some, visible⟩ := each _ (List.mem_map_of_mem member)
    refine ⟨?_, visible⟩
    rintro rfl
    exact some rfl
  · exact fun space behind whole some white => words_append whole some white

/-- A space that is taken literally and a backslash that is, at the end. -/
def pairedBackslash : String :=
  "new\\ york\\\\"

theorem words_only_split_pairedBackslash
    : IsSplit pairedBackslash [pairedBackslash]
      ∧ .dangling ∉ pieces pairedBackslash.toList
      ∧ words (pairedBackslash ++ "\t " ++ " b\\") = words pairedBackslash ++ words " b\\"
      ∧ words (pairedBackslash ++ "\t " ++ " b\\") = [pairedBackslash, "b\\"] := by
  obtain ⟨only, -, -, behind⟩ := words_only_split pairedBackslash
  have whole : .dangling ∉ pieces pairedBackslash.toList := by decide
  have joined := behind "\t " " b\\" whole (by decide) (by decide)
  exact ⟨(only _).mpr (by decide), whole, joined, by decide⟩

end CqlGateway.Term
