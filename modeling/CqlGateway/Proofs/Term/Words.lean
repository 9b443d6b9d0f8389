import Mathlib.Data.List.Basic
import Mathlib.Data.List.TakeWhile
import CqlGateway.Proofs.Term.Pieces
import CqlGateway.Term.Words

/-! The words of a term: blanks separate them, they are found again when they are joined, and
trimming the term keeps them unless white space that is taken literally stands at its end.
-/

namespace CqlGateway

-----------------------------------------------------------------------------------------
-- Trimmed text
-----------------------------------------------------------------------------------------

namespace Text

@[simp]
theorem isWhiteSpace_backslash : isWhiteSpace '\\' = false := by
  decide

theorem dropWhile_eq_self {text : List Char}
    (opens : ∀ first ∈ text.head?, isWhiteSpace first = false)
    : text.dropWhile isWhiteSpace = text := by
  cases text with
  | nil => rfl
  | cons first others => rw [List.dropWhile_cons_of_neg (by simp [opens first rfl])]

/-- Between white space, a text that has none at its ends is what is left by trimming. -/
theorem trimmed_append {lead core trail : List Char} (leading : isBlank lead = true)
    (opens : ∀ first ∈ core.head?, isWhiteSpace first = false)
    (closes : ∀ last ∈ core.getLast?, isWhiteSpace last = false) (trailing : isBlank trail = true)
    : trimmed (lead ++ (core ++ trail)) = core := by
  rw [isBlank, List.all_eq_true] at leading trailing
  have front : (lead ++ (core ++ trail)).dropWhile isWhiteSpace
      = (core ++ trail).dropWhile isWhiteSpace :=
    List.dropWhile_append_of_pos leading
  have back : (trail.reverse ++ core.reverse).dropWhile isWhiteSpace = core.reverse := by
    rw [List.dropWhile_append_of_pos (by simpa using trailing)]
    exact dropWhile_eq_self (by simpa using closes)
  rw [trimmed, front]
  cases core with
  | nil =>
      have none : trail.dropWhile isWhiteSpace = [] := List.dropWhile_eq_nil_iff.mpr trailing
      rw [List.nil_append, none]
      rfl
  | cons first others =>
      rw [List.cons_append, List.dropWhile_cons_of_neg (by simp [opens first rfl]),
        ← List.cons_append, List.reverse_append, back, List.reverse_reverse]

end Text

namespace Term

variable {parts front behind word : List Piece} {value : String}

-----------------------------------------------------------------------------------------
-- Words of pieces
-----------------------------------------------------------------------------------------

/-- Pieces that no blank separates. -/
structure IsWord (word : List Piece) : Prop where
  ne_nil : word ≠ []
  visible : ∀ piece ∈ word, piece.isBlank = false

/-- All pieces are white space that is not taken literally. -/
def AreBlank (parts : List Piece) : Prop :=
  ∀ piece ∈ parts, piece.isBlank = true

theorem consWord_append (words more : List (List Piece))
    : consWord word (words ++ more) = consWord word words ++ more := by
  unfold consWord
  split
  · rfl
  · rfl

theorem mem_consWord {first : List Piece} {words : List (List Piece)}
    : word ∈ consWord first words ↔ (word = first ∧ first ≠ []) ∨ word ∈ words := by
  unfold consWord
  split <;> simp_all

theorem breakWords_of_visible {piece : Piece} (visible : piece.isBlank = false)
    : breakWords (piece :: parts) = (piece :: (breakWords parts).1, (breakWords parts).2) := by
  simp [breakWords, visible]

theorem breakWords_of_blank {blank : Piece} (isBlank : blank.isBlank = true)
    : breakWords (blank :: parts) = ([], wordPieces parts) := by
  simp [breakWords, isBlank, wordPieces]

theorem wordPieces_of_blank {blank : Piece} (isBlank : blank.isBlank = true)
    : wordPieces (blank :: parts) = wordPieces parts := by
  rw [wordPieces, breakWords_of_blank isBlank]
  rfl

/-- A blank separates the words in front of it from those behind it, by the recursion in front. -/
theorem wordPieces_append {blank : Piece} (isBlank : blank.isBlank = true)
    : wordPieces (front ++ blank :: behind) = wordPieces front ++ wordPieces behind := by
  have broken : breakWords (front ++ blank :: behind)
      = ((breakWords front).1, (breakWords front).2 ++ wordPieces behind) := by
    induction front with
    | nil =>
        rw [List.nil_append, breakWords_of_blank isBlank]
        rfl
    | cons piece others ih =>
        rw [List.cons_append]
        cases first : piece.isBlank with
        | false => rw [breakWords_of_visible first, breakWords_of_visible first, ih]
        | true =>
            rw [breakWords_of_blank first, breakWords_of_blank first, wordPieces, ih,
              consWord_append]
            rfl
  rw [wordPieces, broken, consWord_append]
  rfl

theorem wordPieces_of_isWord (isWord : IsWord word) : wordPieces word = [word] := by
  have broken {parts : List Piece} (visible : ∀ piece ∈ parts, piece.isBlank = false)
      : breakWords parts = (parts, []) := by
    induction parts with
    | nil => rfl
    | cons piece others ih =>
        obtain ⟨first, later⟩ := List.forall_mem_cons.mp visible
        rw [breakWords_of_visible first, ih later]
  rw [wordPieces, broken isWord.visible, consWord, if_neg (by simpa using isWord.ne_nil)]

theorem wordPieces_blank_append (blank : AreBlank front)
    : wordPieces (front ++ parts) = wordPieces parts := by
  induction front with
  | nil => rfl
  | cons piece others ih =>
      obtain ⟨first, later⟩ := List.forall_mem_cons.mp blank
      rw [List.cons_append, wordPieces_of_blank first, ih later]

theorem wordPieces_append_blank (blank : AreBlank behind)
    : wordPieces (parts ++ behind) = wordPieces parts := by
  cases behind with
  | nil => rw [List.append_nil]
  | cons piece others =>
      obtain ⟨first, later⟩ := List.forall_mem_cons.mp blank
      have none := @wordPieces_blank_append [] others later
      rw [List.append_nil] at none
      rw [wordPieces_append first, none]
      exact List.append_nil _

/-- Words are made of visible pieces of the term, by the recursion that finds them. -/
theorem isWord_of_mem_wordPieces (good : Piece → Prop) (each : ∀ piece ∈ parts, good piece)
    : ∀ word ∈ wordPieces parts, IsWord word ∧ ∀ piece ∈ word, good piece := by
  have joined {lead : List Piece} {words : List (List Piece)}
      (visible : ∀ piece ∈ lead, piece.isBlank = false ∧ good piece)
      (others : ∀ word ∈ words, IsWord word ∧ ∀ piece ∈ word, good piece)
      : ∀ word ∈ consWord lead words, IsWord word ∧ ∀ piece ∈ word, good piece := by
    intro word member
    rcases mem_consWord.mp member with ⟨rfl, some⟩ | member
    · exact ⟨⟨some, fun piece inside => (visible piece inside).1⟩, fun piece inside =>
        (visible piece inside).2⟩
    · exact others word member
  have broken : (∀ piece ∈ (breakWords parts).1, piece.isBlank = false ∧ good piece)
      ∧ ∀ word ∈ (breakWords parts).2, IsWord word ∧ ∀ piece ∈ word, good piece := by
    induction parts with
    | nil => simp [breakWords]
    | cons piece others ih =>
        obtain ⟨first, later⟩ := List.forall_mem_cons.mp each
        obtain ⟨visible, words⟩ := ih later
        cases kind : piece.isBlank with
        | false =>
            rw [breakWords_of_visible kind]
            exact ⟨List.forall_mem_cons.mpr ⟨⟨kind, first⟩, visible⟩, words⟩
        | true =>
            rw [breakWords_of_blank kind]
            exact ⟨by simp, joined visible words⟩
  exact joined broken.1 broken.2

/-- Words are found again between single blanks. -/
theorem wordPieces_intercalate {words : List (List Piece)} {blank : Piece}
    (isBlank : blank.isBlank = true) (each : ∀ word ∈ words, IsWord word)
    : wordPieces ([blank].intercalate words) = words := by
  induction words with
  | nil => rfl
  | cons word others ih =>
      obtain ⟨first, later⟩ := List.forall_mem_cons.mp each
      cases others with
      | nil => rw [List.intercalate_singleton, wordPieces_of_isWord first]
      | cons next rest =>
          rw [List.intercalate_cons_cons, List.append_assoc, List.singleton_append,
            wordPieces_append isBlank, wordPieces_of_isWord first, ih later, List.singleton_append]

-----------------------------------------------------------------------------------------
-- Words of values
-----------------------------------------------------------------------------------------

/-- The text of a row of pieces. -/
def text (parts : List Piece) : String :=
  String.ofList (written parts)

theorem words_eq (value : String) : words value = (wordPieces (pieces value.toList)).map text := by
  rfl

theorem pieces_text (whole : ∀ piece ∈ parts, piece.IsWhole)
    : pieces (text parts).toList = parts := by
  rw [text, String.toList_ofList, pieces_written whole]

theorem written_intercalate (words : List (List Piece))
    : written ([.bare ' '].intercalate words) = [' '].intercalate (words.map written) := by
  induction words with
  | nil => rfl
  | cons word others ih =>
      cases others with
      | nil => simp
      | cons next rest =>
          simp only [List.map_cons, List.intercalate_cons_cons] at ih ⊢
          rw [← ih]
          simp [written, Piece.written]

theorem joinWords_map_text (words : List (List Piece))
    : joinWords (words.map text) = text ([.bare ' '].intercalate words) := by
  rw [joinWords, ← String.toList_inj, String.toList_intercalate, text, String.toList_ofList,
    written_intercalate]
  simp [text, Function.comp_def]

/-- A word is not white space alone: it has a visible piece, or a backslash. -/
theorem not_isBlank_of_mem_words {word : String} (member : word ∈ words value)
    : Text.isBlank word.toList = false := by
  obtain ⟨parts, isPart, rfl⟩ := List.mem_map.mp member
  obtain ⟨⟨some, visible⟩, -⟩ :=
    isWord_of_mem_wordPieces (fun _ => True) (fun _ _ => trivial) parts isPart
  cases parts with
  | nil => exact absurd rfl some
  | cons first others =>
      have shown := visible first (by simp)
      cases first with
      | bare character =>
          simp only [Piece.isBlank] at shown
          simp [Text.isBlank, written, Piece.written, shown]
      | escaped | dangling =>
          simp [Text.isBlank, written, Piece.written]

/-- Words with a space between neighbours are not blank if there is one. -/
theorem not_isBlank_joinWords {words : List String} (some : words ≠ [])
    (each : ∀ word ∈ words, Text.isBlank word.toList = false)
    : Text.isBlank (joinWords words).toList = false := by
  obtain ⟨word, others, rfl⟩ := List.exists_cons_of_ne_nil some
  obtain ⟨character, member, visible⟩ :=
    List.all_eq_false.mp (each word (List.mem_cons_self ..))
  refine List.all_eq_false.mpr ⟨character, ?_, visible⟩
  rw [joinWords, String.toList_intercalate]
  cases others with
  | nil => simpa using member
  | cons next rest =>
      simp only [List.map_cons, List.intercalate_cons_cons]
      exact List.mem_append_left _ (List.mem_append_left _ member)

/-- The values have these words, one after the other, and none ends in a lone backslash. -/
structure KeepsWords (values words : List String) : Prop where
  same : values.flatMap Term.words = words
  whole : ∀ value ∈ values, .dangling ∉ pieces value.toList

/-- What the words of a whole value are made of. -/
theorem isWord_of_whole (whole : .dangling ∉ pieces value.toList)
    : ∀ word ∈ wordPieces (pieces value.toList),
        IsWord word ∧ ∀ piece ∈ word, piece.IsWhole :=
  isWord_of_mem_wordPieces Piece.IsWhole (isWhole_of_mem_pieces whole)

/-- Each word of a whole value is one word. -/
theorem keepsWords_words (whole : .dangling ∉ pieces value.toList)
    : KeepsWords (words value) (words value) := by
  have each := isWord_of_whole whole
  rw [words_eq]
  generalize wordPieces (pieces value.toList) = words at each
  refine ⟨?_, ?_⟩
  · induction words with
    | nil => rfl
    | cons word others ih =>
        obtain ⟨⟨isWord, wholeWord⟩, later⟩ := List.forall_mem_cons.mp each
        rw [List.map_cons, List.flatMap_cons, ih later, words_eq, pieces_text wholeWord,
          wordPieces_of_isWord isWord]
        rfl
  · simp only [List.forall_mem_map]
    intro word member
    rw [pieces_text (each word member).2]
    exact dangling_notMem_of_isWhole (each word member).2

/-- Words that are joined are found again. -/
theorem keepsWords_joinWords {words : List (List Piece)}
    (each : ∀ word ∈ words, IsWord word ∧ ∀ piece ∈ word, piece.IsWhole)
    : KeepsWords [joinWords (words.map text)] (words.map text) := by
  have whole : ∀ piece ∈ [Piece.bare ' '].intercalate words, piece.IsWhole := by
    induction words with
    | nil => simp
    | cons word others ih =>
        obtain ⟨⟨-, first⟩, later⟩ := List.forall_mem_cons.mp each
        cases others with
        | nil => simpa using first
        | cons next rest =>
            have space : (Piece.bare ' ').IsWhole := by simp [Piece.IsWhole]
            simp only [List.intercalate_cons_cons, List.forall_mem_append,
              List.forall_mem_singleton]
            exact ⟨⟨first, space⟩, ih later⟩
  have same : pieces (joinWords (words.map text)).toList = [.bare ' '].intercalate words := by
    rw [joinWords_map_text, pieces_text whole]
  refine ⟨?_, ?_⟩
  · rw [List.flatMap_singleton, words_eq, same,
      wordPieces_intercalate (by decide) fun word member => (each word member).1]
  · simp only [List.mem_singleton, forall_eq, same]
    exact dangling_notMem_of_isWhole whole

-----------------------------------------------------------------------------------------
-- Trimmed values
-----------------------------------------------------------------------------------------

/-- White space that is taken literally stands at the end of the value, in front of nothing but
blanks.
-/
def EndsInTakenSpace (value : String) : Prop :=
  ∃ front space trail,
    pieces value.toList = front ++ .escaped space :: trail
    ∧ Text.isWhiteSpace space = true
    ∧ AreBlank trail

/-- True of white space that is taken literally. -/
def Piece.isTakenSpace : Piece → Bool
  | .escaped character => Text.isWhiteSpace character
  | _ => false

/-- The piece in front of the blanks at the end decides. -/
theorem endsInTakenSpace_iff
    : EndsInTakenSpace value
      ↔ (((pieces value.toList).reverse.dropWhile Piece.isBlank).head?.any Piece.isTakenSpace
        = true) := by
  constructor
  · rintro ⟨front, space, trail, same, white, blank⟩
    rw [same, List.reverse_append, List.reverse_cons, List.append_assoc,
      List.dropWhile_append_of_pos (by simpa [AreBlank] using blank)]
    exact white
  · intro taken
    have parted := congrArg List.reverse
      (@List.takeWhile_append_dropWhile _ Piece.isBlank (pieces value.toList).reverse)
    cases dropped : (pieces value.toList).reverse.dropWhile Piece.isBlank with
    | nil => simp [dropped] at taken
    | cons last front =>
        cases last with
        | bare | dangling => simp [dropped, Piece.isTakenSpace] at taken
        | escaped space =>
            refine ⟨front.reverse, space,
              ((pieces value.toList).reverse.takeWhile Piece.isBlank).reverse, ?_, ?_, ?_⟩
            · rw [List.reverse_append, dropped, List.reverse_cons, List.append_assoc,
                List.reverse_reverse] at parted
              exact parted.symm
            · rw [dropped] at taken
              exact taken
            · intro piece member
              exact List.mem_takeWhile_imp (List.mem_reverse.mp member)

instance (value : String) : Decidable (EndsInTakenSpace value) :=
  decidable_of_iff _ endsInTakenSpace_iff.symm

theorem isBlank_written (blank : AreBlank parts) : Text.isBlank (written parts) = true := by
  rw [Text.isBlank, List.all_eq_true]
  intro character member
  obtain ⟨piece, inParts, member⟩ := List.mem_flatMap.mp member
  have white := blank piece inParts
  cases piece with
  | bare other =>
      obtain rfl := List.mem_singleton.mp member
      exact white
  | escaped | dangling => cases white

/-- Leading blanks and what is behind them, which a blank does not begin. -/
theorem exists_leading_blanks (parts : List Piece)
    : ∃ lead rest,
        parts = lead ++ rest ∧ AreBlank lead ∧ ∀ first ∈ rest.head?, first.isBlank = false := by
  refine ⟨parts.takeWhile Piece.isBlank, parts.dropWhile Piece.isBlank,
    List.takeWhile_append_dropWhile.symm, fun _ => List.mem_takeWhile_imp, ?_⟩
  intro first begins
  have visible := List.head?_dropWhile_not Piece.isBlank parts
  rwa [begins] at visible

/-- Trailing blanks and what is in front of them, which a blank does not end. -/
theorem exists_trailing_blanks (parts : List Piece)
    : ∃ rest trail,
        parts = rest ++ trail ∧ AreBlank trail ∧ ∀ last ∈ rest.getLast?, last.isBlank = false := by
  obtain ⟨lead, rest, same, blank, visible⟩ := exists_leading_blanks parts.reverse
  refine ⟨rest.reverse, lead.reverse, ?_, ?_, ?_⟩
  · rw [← List.reverse_append, ← same, List.reverse_reverse]
  · intro piece member
    exact blank piece (List.mem_reverse.mp member)
  · simpa using visible

/-- Text in front of which only blanks are trimmed begins visibly if its pieces do. -/
theorem head?_written_append {rest : List Char}
    (opens : ∀ first ∈ parts.head?, first.isBlank = false)
    (restOpens : parts = [] → ∀ first ∈ rest.head?, Text.isWhiteSpace first = false)
    : ∀ first ∈ (written parts ++ rest).head?, Text.isWhiteSpace first = false := by
  cases parts with
  | nil => exact restOpens rfl
  | cons piece others =>
      have visible := opens piece rfl
      cases piece with
      | bare character => simpa [written, Piece.written, Piece.isBlank] using visible
      | escaped | dangling =>
          simp [written, Piece.written]

/-- Trimming takes a backslash's white space from it, which is left alone at the end. -/
theorem dangling_mem_pieces_trim (whole : .dangling ∉ pieces value.toList)
    (ends : EndsInTakenSpace value)
    : .dangling ∈ pieces (Text.trim value).toList := by
  obtain ⟨front, space, trail, same, white, blank⟩ := ends
  obtain ⟨lead, core, rfl, leading, opens⟩ := exists_leading_blanks front
  have trimmed : Text.trimmed value.toList = written core ++ ['\\'] := by
    have spelled : value.toList
        = written lead ++ ((written core ++ ['\\']) ++ (space :: written trail)) := by
      rw [← written_pieces value.toList, same]
      simp [written, Piece.written]
    rw [spelled]
    refine Text.trimmed_append (isBlank_written leading) ?_ (by simp) ?_
    · exact head?_written_append opens fun _ => by simp
    · have trailing := isBlank_written blank
      simpa [Text.isBlank, white] using trailing
  have wholeCore : ∀ piece ∈ core, piece.IsWhole := by
    intro piece member
    exact isWhole_of_mem_pieces whole piece (by simp [same, member])
  rw [Text.trim, String.toList_ofList, trimmed, pieces_written_append wholeCore]
  simp [pieces]

/-- Trimming takes no more than blanks from a value at whose end no white space is taken literally.
-/
theorem exists_core_of_trim (bare : ¬ EndsInTakenSpace value)
    : ∃ lead core trail,
        pieces value.toList = lead ++ (core ++ trail)
        ∧ AreBlank lead
        ∧ AreBlank trail
        ∧ Text.trim value = text core := by
  obtain ⟨lead, rest, same, leading, opens⟩ := exists_leading_blanks (pieces value.toList)
  obtain ⟨core, trail, rfl, trailing, closes⟩ := exists_trailing_blanks rest
  refine ⟨lead, core, trail, same, leading, trailing, ?_⟩
  have spelled : value.toList = written lead ++ (written core ++ written trail) := by
    rw [← written_pieces value.toList, same]
    simp [written]
  rw [Text.trim, text, spelled, Text.trimmed_append (isBlank_written leading) ?_ ?_
    (isBlank_written trailing)]
  · have coreOpens : ∀ first ∈ core.head?, first.isBlank = false := by
      intro first begins
      exact opens first (by rw [List.head?_append, begins]; rfl)
    have shown := @head?_written_append core [] coreOpens (by simp)
    rwa [List.append_nil] at shown
  · rcases List.eq_nil_or_concat core with rfl | ⟨others, last, rfl⟩
    · simp [written]
    · have visible := closes last (by simp)
      cases last with
      | bare character => simpa [written, Piece.written, Piece.isBlank] using visible
      | escaped character =>
          have notWhite : Text.isWhiteSpace character = false := by
            rw [← Bool.not_eq_true]
            intro white
            exact bare ⟨lead ++ others, character, trail, by simp [same], white, trailing⟩
          simpa [written, Piece.written] using notWhite
      | dangling =>
          simp [written, Piece.written]

theorem keepsWords_trim (whole : .dangling ∉ pieces value.toList) (bare : ¬ EndsInTakenSpace value)
    : words (Text.trim value) = words value ∧ .dangling ∉ pieces (Text.trim value).toList := by
  obtain ⟨lead, core, trail, same, leading, trailing, trimmed⟩ := exists_core_of_trim bare
  have wholeCore : ∀ piece ∈ core, piece.IsWhole := by
    intro piece member
    exact isWhole_of_mem_pieces whole piece (by simp [same, member])
  have read : pieces (Text.trim value).toList = core := by rw [trimmed, pieces_text wholeCore]
  refine ⟨?_, ?_⟩
  · rw [words_eq, words_eq, read, same, wordPieces_blank_append leading,
      wordPieces_append_blank trailing]
  · rw [read]
    exact dangling_notMem_of_isWhole wholeCore

/-- The values keep the words if no white space that is taken literally stands at the end of one of
those that were trimmed, and else one of them ends in a lone backslash.
-/
structure KeepsUnlessTrimmed (values words trimmed : List String) : Prop where
  kept : (∀ value ∈ trimmed, ¬ EndsInTakenSpace value) → KeepsWords values words
  bare : (∀ value ∈ values, .dangling ∉ pieces value.toList)
    → ∀ value ∈ trimmed, ¬ EndsInTakenSpace value

namespace KeepsUnlessTrimmed

variable {values words trimmed : List String}

theorem keepsWords_iff (keeps : KeepsUnlessTrimmed values words trimmed)
    : KeepsWords values words ↔ ∀ value ∈ trimmed, ¬ EndsInTakenSpace value where
  mp := fun kept => keeps.bare kept.whole
  mpr := keeps.kept

theorem of_keepsWords (keeps : KeepsWords values words) : KeepsUnlessTrimmed values words [] where
  kept := fun _ => keeps
  bare := by simp

/-- Values that are all trimmed. -/
theorem map_trim (whole : ∀ value ∈ values, .dangling ∉ pieces value.toList)
    : KeepsUnlessTrimmed (values.map Text.trim) (values.flatMap Term.words) values where
  kept := by
    intro bare
    have each (value : String) (member : value ∈ values) :=
      keepsWords_trim (whole value member) (bare value member)
    refine ⟨?_, ?_⟩
    · rw [List.flatMap_map]
      exact List.flatMap_congr fun value member => (each value member).1
    · simp only [List.forall_mem_map]
      exact fun value member => (each value member).2
  bare := by
    intro wholeTrimmed value member ends
    exact wholeTrimmed _ (List.mem_map_of_mem member)
      (dangling_mem_pieces_trim (whole value member) ends)

/-- What holds of the values of each item holds of all values one after the other. -/
theorem flatMap {α : Type} {items : List α} {values words trimmed : α → List String}
    (each : ∀ item ∈ items, KeepsUnlessTrimmed (values item) (words item) (trimmed item))
    : KeepsUnlessTrimmed (items.flatMap values) (items.flatMap words) (items.flatMap trimmed) where
  kept := by
    intro bare
    simp only [List.forall_mem_flatMap] at bare
    have keeps (item : α) (member : item ∈ items) := (each item member).kept (bare item member)
    refine ⟨?_, ?_⟩
    · rw [List.flatMap_assoc]
      exact List.flatMap_congr fun item member => (keeps item member).same
    · simp only [List.forall_mem_flatMap]
      exact fun item member => (keeps item member).whole
  bare := by
    simp only [List.forall_mem_flatMap]
    exact fun whole item member => (each item member).bare (whole item member)

end KeepsUnlessTrimmed

end Term

end CqlGateway
