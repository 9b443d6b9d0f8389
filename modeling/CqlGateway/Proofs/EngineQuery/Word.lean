import Mathlib.Tactic.IntervalCases
import CqlGateway.EngineQuery.Text

/-! How the engine's language is read character by character, and that what a field match is written
with is a single word of it, whatever the values are.
-/

namespace CqlGateway.EngineText

/-- What the next character stands in. -/
inductive Enclosure where
  | bare
  | quotes
  | brackets
deriving DecidableEq

/-- The enclosure behind a character that is not taken literally. -/
def Enclosure.after (enclosure : Enclosure) (character : Char) : Enclosure :=
  match enclosure with
  | .bare =>
      if character = '"' then .quotes
      else if character = '[' || character = '\x7b' then .brackets
      else .bare
  | .quotes => if character = '"' then .bare else .quotes
  | .brackets => if character = ']' || character = '\x7d' then .bare else .brackets

/-- How the next character is read. -/
structure Mode where
  enclosure : Enclosure
  /-- True behind a backslash, which takes the next character literally. -/
  escaped : Bool
deriving DecidableEq

namespace Mode

/-- Outside quotes and brackets, where spaces and parentheses have their meaning. -/
def plain : Mode :=
  ⟨.bare, false⟩

/-- How the character behind this one is read. -/
def after (mode : Mode) (character : Char) : Mode :=
  if mode.escaped then
    ⟨mode.enclosure, false⟩
  else if character = '\\' then
    ⟨mode.enclosure, true⟩
  else
    ⟨mode.enclosure.after character, false⟩

/-- True of the characters that end a word where they have their meaning. -/
def isSeparator (character : Char) : Bool :=
  character = ' ' || character = '(' || character = ')'

/-- The mode behind a character that does not end the word it stands in. -/
def afterInWord? (mode : Mode) (character : Char) : Option Mode :=
  if mode = plain && isSeparator character then none else some (mode.after character)

/-- The mode behind characters that all stand in one word. -/
def throughWord? (mode : Mode) (text : List Char) : Option Mode :=
  text.foldlM afterInWord? mode

end Mode

/-- Text that is one word wherever it stands: all that it opens is closed, and no space or
parenthesis has its meaning in it.
-/
def IsWord (text : List Char) : Prop :=
  Mode.plain.throughWord? text = some .plain

/-- A name that is written as it is: nothing in it has a meaning in the engine's language. -/
def IsPlainName (name : String) : Prop :=
  ∀ character ∈ name.toList, Term.isSpecial character = false

instance (name : String) : Decidable (IsPlainName name) :=
  decidable_of_iff (name.toList.all (!Term.isSpecial ·) = true) (by simp [IsPlainName])

-----------------------------------------------------------------------------------------
-- Words are put together from words
-----------------------------------------------------------------------------------------

@[simp]
theorem Mode.throughWord?_nil (mode : Mode) : mode.throughWord? [] = some mode := by
  rfl

theorem Mode.throughWord?_append (mode : Mode) (left right : List Char)
    : mode.throughWord? (left ++ right)
      = (mode.throughWord? left).bind (·.throughWord? right) := by
  simp only [throughWord?, List.foldlM_append, Option.bind_eq_bind]

/-- Text that is read in two parts. -/
theorem Mode.throughWord?_trans {first second third : Mode} {left right : List Char}
    (readLeft : first.throughWord? left = some second)
    (readRight : second.throughWord? right = some third)
    : first.throughWord? (left ++ right) = some third := by
  rw [throughWord?_append, readLeft]
  exact readRight

/-- Pieces that each leave the mode as it is leave it as it is together, by list induction. -/
theorem Mode.throughWord?_flatMap {α : Type} {mode : Mode} {piece : α → List Char}
    {parts : List α} (each : ∀ part ∈ parts, mode.throughWord? (piece part) = some mode)
    : mode.throughWord? (parts.flatMap piece) = some mode := by
  induction parts with
  | nil => rfl
  | cons part rest ih =>
      rw [List.flatMap_cons]
      exact throughWord?_trans (each part (by simp))
        (ih fun other member => each other (List.mem_cons_of_mem part member))

theorem IsWord.append {left right : List Char} (hl : IsWord left) (hr : IsWord right)
    : IsWord (left ++ right) :=
  Mode.throughWord?_trans hl hr

-----------------------------------------------------------------------------------------
-- Values as they are written
-----------------------------------------------------------------------------------------

/-- A character without a meaning of its own changes no mode. Witness: it is none of the characters
that the reader looks for, since those are all special.
-/
theorem Mode.throughWord?_ordinary {character : Char} (ordinary : Term.isSpecial character = false)
    (enclosure : Enclosure)
    : throughWord? ⟨enclosure, false⟩ [character] = some ⟨enclosure, false⟩ := by
  have differs (other : Char) (special : Term.isSpecial other = true) : character ≠ other := by
    rintro rfl
    exact Bool.false_ne_true (ordinary.symm.trans special)
  have separates : isSeparator character = false := by
    simp [isSeparator, differs ' ' (by decide), differs '(' (by decide), differs ')' (by decide)]
  have keeps : enclosure.after character = enclosure := by
    cases enclosure <;>
      simp [Enclosure.after, differs '"' (by decide), differs '[' (by decide),
        differs ']' (by decide), differs '\x7b' (by decide), differs '\x7d' (by decide)]
  simp [throughWord?, afterInWord?, separates, after, differs '\\' (by decide), keeps]

/-- A backslash and the character it takes literally change no mode. -/
theorem Mode.throughWord?_escaped (enclosure : Enclosure) (character : Char)
    : throughWord? ⟨enclosure, false⟩ ['\\', character] = some ⟨enclosure, false⟩ := by
  simp [throughWord?, afterInWord?, after, isSeparator, plain]

theorem Mode.throughWord?_literalChar (enclosure : Enclosure) (character : Char)
    : throughWord? ⟨enclosure, false⟩ (Term.literalChar character) = some ⟨enclosure, false⟩ := by
  unfold Term.literalChar
  split
  · exact throughWord?_escaped enclosure character
  · next ordinary => exact throughWord?_ordinary (by simpa using ordinary) enclosure

/-- A wildcard is written bare and changes no mode. -/
theorem Mode.throughWord?_wildcard {piece : Term.Piece} (wild : piece.isWildcard = true)
    (enclosure : Enclosure)
    : throughWord? ⟨enclosure, false⟩ piece.written = some ⟨enclosure, false⟩ := by
  cases piece with
  | escaped character => simp [Term.Piece.isWildcard] at wild
  | dangling => simp [Term.Piece.isWildcard] at wild
  | bare character =>
      simp only [Term.Piece.isWildcard, Bool.or_eq_true, decide_eq_true_eq] at wild
      rcases wild with rfl | rfl <;> cases enclosure <;> rfl

/-- A value that is escaped as a term changes no mode, by its pieces. -/
theorem Mode.throughWord?_escape (enclosure : Enclosure) (escaping : Escaping) (value : String)
    : throughWord? ⟨enclosure, false⟩ (Term.escape escaping value).toList
      = some ⟨enclosure, false⟩ := by
  simp only [Term.escape, String.toList_ofList]
  apply throughWord?_flatMap
  intro piece _
  unfold Term.escapePiece
  split
  · next wild => exact throughWord?_wildcard (by simp_all) enclosure
  · exact throughWord?_literalChar enclosure piece.meant

/-- A value that is escaped as a phrase ends no quotes, by its pieces. -/
theorem Mode.throughWord?_escapePhrase (value : String)
    : throughWord? ⟨.quotes, false⟩ (Term.escapePhrase value).toList = some ⟨.quotes, false⟩ := by
  simp only [Term.escapePhrase, String.toList_ofList]
  apply throughWord?_flatMap
  intro piece _
  unfold Term.phraseChar
  split
  · exact throughWord?_escaped .quotes piece.meant
  · next ordinary =>
      rw [Bool.or_eq_true, not_or, decide_eq_true_eq, decide_eq_true_eq] at ordinary
      simp [throughWord?, afterInWord?, after, plain, Enclosure.after, ordinary]

-----------------------------------------------------------------------------------------
-- Field matches are words
-----------------------------------------------------------------------------------------

theorem isWord_of_plainName {name : String} (ordinary : IsPlainName name)
    : IsWord name.toList := by
  have each : Mode.plain.throughWord? (name.toList.flatMap fun character => [character])
      = some .plain :=
    Mode.throughWord?_flatMap fun character member =>
      Mode.throughWord?_ordinary (ordinary character member) .bare
  rw [List.flatMap_singleton'] at each
  exact each

/-- No digit has a meaning in the engine's language. -/
theorem isSpecial_digit {character : Char} (digit : character.isDigit = true)
    : Term.isSpecial character = false := by
  have bounds : 48 ≤ character.toNat ∧ character.toNat ≤ 57 := by
    simpa [Char.isDigit, UInt32.le_iff_toNat_le] using digit
  have code : character = Char.ofNat character.toNat := (Char.ofNat_toNat character).symm
  obtain ⟨low, high⟩ := bounds
  generalize character.toNat = number at code low high
  subst code
  interval_cases number <;> decide

theorem isPlainName_digits (number : Nat) : IsPlainName (toString number) := by
  intro character member
  apply isSpecial_digit
  have written : character ∈ Nat.toDigits 10 number := by
    simpa [Nat.repr, toString] using member
  exact Nat.isDigit_of_mem_toDigits (by decide) (by decide) written

/-- A value between quotes is a word. -/
theorem isWord_quoted (value : String)
    : IsWord ("\"" ++ Term.escapePhrase value ++ "\"").toList := by
  simp only [String.toList_append]
  exact Mode.throughWord?_trans
    (Mode.throughWord?_trans (by rfl) (Mode.throughWord?_escapePhrase value)) (by rfl)

theorem throughWord?_bound (bound : Bound)
    : Mode.throughWord? ⟨.brackets, false⟩ bound.text.toList = some ⟨.brackets, false⟩ := by
  cases bound with
  | unbounded => rfl
  | inclusive value => exact Mode.throughWord?_escape .brackets .literal value
  | exclusive value => exact Mode.throughWord?_escape .brackets .literal value

/-- A range is a word, since its brackets hold the spaces in it. -/
theorem isWord_range (lower upper : Bound)
    : IsWord (lower.opening ++ lower.text ++ " TO " ++ upper.text ++ upper.closing).toList := by
  have opens : Mode.plain.throughWord? lower.opening.toList = some ⟨.brackets, false⟩ := by
    cases lower <;> simp only [Bound.opening] <;> rfl
  have joins : Mode.throughWord? ⟨.brackets, false⟩ " TO ".toList = some ⟨.brackets, false⟩ := by
    rfl
  have closes : Mode.throughWord? ⟨.brackets, false⟩ upper.closing.toList = some .plain := by
    cases upper <;> simp only [Bound.closing] <;> rfl
  simp only [String.toList_append]
  exact Mode.throughWord?_trans (Mode.throughWord?_trans (Mode.throughWord?_trans
    (Mode.throughWord?_trans opens (throughWord?_bound lower)) joins)
    (throughWord?_bound upper)) closes

/-- What a field is matched with, as it is written behind the colon. -/
def valueText (condition : FieldMatch) : String :=
  match condition.value with
  | .term value => Term.escape condition.escaping value
  | .phrase value => "\"" ++ Term.escapePhrase value ++ "\""
  | .proximity words slop => "\"" ++ Term.escapePhrase words ++ "\"~" ++ toString slop
  | .range lower upper => lower.opening ++ lower.text ++ " TO " ++ upper.text ++ upper.closing

theorem text_eq (condition : FieldMatch)
    : condition.text = condition.field ++ ":" ++ valueText condition := by
  rfl

/-- What a field is matched with is a word, whatever characters the values have. -/
theorem isWord_valueText (condition : FieldMatch) : IsWord (valueText condition).toList := by
  unfold valueText
  split
  · exact Mode.throughWord?_escape .bare condition.escaping _
  · exact isWord_quoted _
  · next words slop _ =>
      have tilde : ("\"" ++ Term.escapePhrase words ++ "\"~" ++ toString slop).toList
          = ("\"" ++ Term.escapePhrase words ++ "\"").toList ++ "~".toList
            ++ (toString slop).toList := by
        simp
      rw [tilde]
      exact ((isWord_quoted words).append (by rfl)).append
        (isWord_of_plainName (isPlainName_digits slop))
  · exact isWord_range _ _

/-- A field match is a word if the name of its field is written as it is. -/
theorem isWord_text {condition : FieldMatch} (ordinary : IsPlainName condition.field)
    : IsWord condition.text.toList := by
  rw [text_eq, String.toList_append, String.toList_append]
  exact ((isWord_of_plainName ordinary).append (by rfl)).append (isWord_valueText condition)

end CqlGateway.EngineText
