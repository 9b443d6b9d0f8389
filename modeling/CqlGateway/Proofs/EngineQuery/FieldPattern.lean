import CqlGateway.Proofs.EngineQuery.Pattern
import CqlGateway.Proofs.EngineQuery.Word
import CqlGateway.Proofs.Term.Escape

/-! How the engine reads the match of a field: the name up to a colon, and what stands behind it as
a term, as a phrase or as a range. What a field match asks for is read again from its text.
-/

namespace CqlGateway.EngineText

/-- An end of a range, with what it asks of a text. -/
inductive BoundPattern where
  | unbounded
  | inclusive (parts : List PatternPart)
  | exclusive (parts : List PatternPart)
deriving DecidableEq

/-- What a value of a field is matched with. -/
inductive ValuePattern where
  | term (parts : List PatternPart)
  | phrase (parts : List PatternPart)
  | proximity (parts : List PatternPart) (slop : Nat)
  | range (lower upper : BoundPattern)
deriving DecidableEq

structure FieldPattern where
  field : String
  pattern : ValuePattern
deriving DecidableEq

-----------------------------------------------------------------------------------------
-- What a field match asks for
-----------------------------------------------------------------------------------------

/-- In a bound nothing is a wildcard. -/
def boundPattern : Bound → BoundPattern
  | .unbounded => .unbounded
  | .inclusive value => .inclusive (valuePattern .literal value)
  | .exclusive value => .exclusive (valuePattern .literal value)

/-- Only terms have wildcards, if the field allows them. -/
def matchPattern (escaping : Escaping) : MatchValue → ValuePattern
  | .term value => .term (valuePattern escaping value)
  | .phrase value => .phrase (valuePattern .literal value)
  | .proximity words slop => .proximity (valuePattern .literal words) slop
  | .range lower upper => .range (boundPattern lower) (boundPattern upper)

def fieldPattern (condition : FieldMatch) : FieldPattern :=
  {
    field := condition.field
    pattern := matchPattern condition.escaping condition.value
  }

-----------------------------------------------------------------------------------------
-- What the engine reads
-----------------------------------------------------------------------------------------

/-- A part in front of what was read. -/
def withPart (part : PatternPart) (read : List PatternPart × List Char)
    : List PatternPart × List Char :=
  (part :: read.1, read.2)

/-- The parts of a term up to a special character that ends it, and the text from there on. -/
def readTerm : List Char → List PatternPart × List Char
  | [] => ([], [])
  | '\\' :: character :: rest => withPart (.literal character) (readTerm rest)
  | '*' :: rest => withPart .anyText (readTerm rest)
  | '?' :: rest => withPart .anyChar (readTerm rest)
  | character :: rest =>
      if Term.isSpecial character then
        ([], character :: rest)
      else
        withPart (.literal character) (readTerm rest)

/-- The characters up to the quote that ends a phrase, and the text behind it. -/
def readQuoted? : List Char → Option (List PatternPart × List Char)
  | [] => none
  | ['\\'] => none
  | '\\' :: character :: rest => (readQuoted? rest).map (withPart (.literal character))
  | '"' :: rest => some ([], rest)
  | character :: rest => (readQuoted? rest).map (withPart (.literal character))

/-- A bound as it is read: a star on its own is no bound. -/
def boundOf (exclusive : Bool) (parts : List PatternPart) : BoundPattern :=
  if parts = [.anyText] then .unbounded
  else if exclusive then .exclusive parts
  else .inclusive parts

/-- True if the bracket that ends a range leaves its upper bound out. -/
def closesExclusive? : List Char → Option Bool
  | [']'] => some false
  | ['\x7d'] => some true
  | _ => none

/-- A range behind its opening bracket. -/
def readRange? (exclusive : Bool) (text : List Char) : Option ValuePattern :=
  match readTerm text with
  | (lower, ' ' :: 'T' :: 'O' :: ' ' :: rest) =>
      (closesExclusive? (readTerm rest).2).map fun exclusiveUpper =>
        .range (boundOf exclusive lower) (boundOf exclusiveUpper (readTerm rest).1)
  | _ => none

/-- A number in decimal digits. -/
def readNumber? (digits : List Char) : Option Nat :=
  if digits.isEmpty || digits.any (!·.isDigit) then none else some (Nat.ofDigitChars 10 digits 0)

/-- A phrase behind its opening quote. A number behind a tilde is how far its words may be apart. -/
def readPhrase? (text : List Char) : Option ValuePattern :=
  match readQuoted? text with
  | some (parts, []) => some (.phrase parts)
  | some (parts, '~' :: digits) => (readNumber? digits).map (.proximity parts)
  | _ => none

/-- What stands behind a colon. -/
def readValue? : List Char → Option ValuePattern
  | '"' :: rest => readPhrase? rest
  | '[' :: rest => readRange? false rest
  | '\x7b' :: rest => readRange? true rest
  | text =>
      match readTerm text with
      | (parts, []) => some (.term parts)
      | _ => none

/-- What a match of a field says, if it is one as a whole. -/
def readMatch? (text : String) : Option FieldPattern :=
  match text.toList.span (!Term.isSpecial ·) with
  | (field, ':' :: rest) =>
      (readValue? rest).map fun pattern => {
        field := String.ofList field
        pattern := pattern
      }
  | _ => none

-----------------------------------------------------------------------------------------
-- Terms
-----------------------------------------------------------------------------------------

variable {rest text : List Char}

theorem readsParts_readTerm : ReadsParts readTerm withPart where
  escaped character rest := by rfl
  ordinary character rest ordinary := by
    obtain ⟨notEscape, notStar, notMark⟩ := ne_of_ordinary ordinary
    rw [readTerm]
    all_goals simp [notEscape, notStar, notMark, ordinary]
  star rest := by rfl
  mark rest := by rfl

theorem foldr_withPart (parts : List PatternPart) (rest : List Char)
    : parts.foldr withPart ([], rest) = (parts, rest) := by
  induction parts with
  | nil => rfl
  | cons part others ih => rw [List.foldr_cons, ih, withPart]

/-- A value is read up to its end, if a term ends there. -/
theorem readTerm_escape_append (ends : readTerm rest = ([], rest)) (escaping : Escaping)
    (value : String)
    : readTerm ((Term.escape escaping value).toList ++ rest)
      = (valuePattern escaping value, rest) := by
  rw [readsParts_readTerm.escape_append, ends, foldr_withPart]

/-- What is a term as a whole begins neither a phrase nor a range. -/
theorem readValue?_of_readTerm {parts : List PatternPart} (whole : readTerm text = (parts, []))
    : readValue? text = some (.term parts) := by
  fun_cases readValue? text with
  -- Quotes and brackets are special: the term in front of one does not take it.
  | case1 rest | case2 rest | case3 rest => cases whole
  | case4 => simp_all
  | case5 => simp_all

-----------------------------------------------------------------------------------------
-- Phrases
-----------------------------------------------------------------------------------------

theorem readQuoted?_phraseChar_append (character : Char) (rest : List Char)
    : readQuoted? (Term.phraseChar character ++ rest)
      = (readQuoted? rest).map (withPart (.literal character)) := by
  unfold Term.phraseChar
  split
  · rw [List.cons_append, List.cons_append, List.nil_append, readQuoted?]
  · next plain =>
      obtain ⟨notQuote, notEscape⟩ : character ≠ '"' ∧ character ≠ '\\' := by simpa using plain
      rw [List.singleton_append, readQuoted?]
      all_goals simp [notQuote, notEscape]

/-- A value is read up to the quote behind it. -/
theorem readQuoted?_escapePhrase_append (value : String) (rest : List Char)
    : readQuoted? ((Term.escapePhrase value).toList ++ '"' :: rest)
      = some (valuePattern .literal value, rest) := by
  rw [Term.escapePhrase, String.toList_ofList, valuePattern]
  induction Term.pieces value.toList with
  | nil => rfl
  | cons piece others ih =>
      rw [List.flatMap_cons, List.append_assoc, readQuoted?_phraseChar_append, ih]
      rfl

theorem readNumber?_toString (number : Nat)
    : readNumber? (toString number).toList = some number := by
  have written : (toString number).toList = Nat.toDigits 10 number := by simp
  have some : (Nat.toDigits 10 number).isEmpty = false := by simp [Nat.toDigits_ne_nil]
  have allDigits : (Nat.toDigits 10 number).any (!·.isDigit) = false := by
    rw [List.any_eq_false]
    intro digit member
    simpa using Nat.isDigit_of_mem_toDigits (by decide) (by decide) member
  rw [written, readNumber?, some, allDigits, Bool.or_self, if_neg Bool.false_ne_true,
    Nat.ofDigitChars_ten_toDigits]

theorem readPhrase?_phrase (value : String)
    : readPhrase? ((Term.escapePhrase value).toList ++ ['"'])
      = some (.phrase (valuePattern .literal value)) := by
  rw [readPhrase?, readQuoted?_escapePhrase_append]

theorem readPhrase?_proximity (words : String) (slop : Nat)
    : readPhrase? ((Term.escapePhrase words).toList ++ '"' :: '~' :: (toString slop).toList)
      = some (.proximity (valuePattern .literal words) slop) := by
  rw [readPhrase?, readQuoted?_escapePhrase_append]
  simp only [readNumber?_toString, Option.map_some]

-----------------------------------------------------------------------------------------
-- Ranges
-----------------------------------------------------------------------------------------

/-- True of a bound that the range leaves out. -/
def isExclusive : Bound → Bool
  | .exclusive _ => true
  | _ => false

/-- A bound is read up to its end, if a term ends there. Only where there is none it is a bare star,
since nothing in a value is a wildcard here.
-/
theorem readTerm_bound_append (ends : readTerm rest = ([], rest)) (bound : Bound)
    : ∃ parts, readTerm (bound.text.toList ++ rest) = (parts, rest)
      ∧ boundOf (isExclusive bound) parts = boundPattern bound := by
  have noStar (value : String) : valuePattern .literal value ≠ [.anyText] := by
    intro star
    have wildcard : .anyText ∈ valuePattern .literal value := by simp [star]
    cases (anyText_mem_valuePattern.mp wildcard).1
  cases bound with
  | unbounded =>
      refine ⟨[.anyText], ?_, rfl⟩
      have text : Bound.unbounded.text.toList ++ rest = '*' :: rest := by rfl
      rw [text, readTerm, ends]
      rfl
  | inclusive value | exclusive value =>
      refine ⟨valuePattern .literal value, readTerm_escape_append ends .literal value, ?_⟩
      rw [boundOf, if_neg (noStar value)]
      rfl

theorem opening_eq (bound : Bound)
    : bound.opening = if isExclusive bound then "\x7b" else "[" := by
  cases bound <;> rfl

theorem closing_eq (bound : Bound)
    : bound.closing = if isExclusive bound then "\x7d" else "]" := by
  cases bound <;> rfl

/-- A range is read from the text behind its opening bracket. -/
theorem readRange?_range (lower upper : Bound)
    : readRange? (isExclusive lower)
        (lower.text.toList ++ " TO ".toList ++ upper.text.toList ++ upper.closing.toList)
      = some (.range (boundPattern lower) (boundPattern upper)) := by
  have closes : readTerm upper.closing.toList = ([], upper.closing.toList)
      ∧ closesExclusive? upper.closing.toList = some (isExclusive upper) := by
    rw [closing_eq]
    cases isExclusive upper
    all_goals exact ⟨by rfl, by rfl⟩
  have separates (rest : List Char)
      : readTerm (" TO ".toList ++ rest) = ([], ' ' :: 'T' :: 'O' :: ' ' :: rest) := by
    rfl
  obtain ⟨low, readLower, isLower⟩ := readTerm_bound_append (separates _) lower
  obtain ⟨high, readUpper, isUpper⟩ := readTerm_bound_append closes.1 upper
  rw [List.append_assoc, List.append_assoc, readRange?, readLower]
  simp only [String.reduceToList, List.cons_append, List.nil_append, readUpper, closes.2, isLower,
    isUpper, Option.map_some]

theorem readValue?_range (lower upper : Bound)
    : readValue? (lower.opening ++ lower.text ++ " TO " ++ upper.text ++ upper.closing).toList
      = some (.range (boundPattern lower) (boundPattern upper)) := by
  have read := readRange?_range lower upper
  simp only [String.toList_append, opening_eq]
  cases exclusive : isExclusive lower
  all_goals
    rw [exclusive] at read
    exact read

-----------------------------------------------------------------------------------------
-- Field matches
-----------------------------------------------------------------------------------------

/-- What stands behind the colon is read as what the field match asks for. -/
theorem readValue?_valueText (condition : FieldMatch)
    : readValue? (valueText condition).toList
      = some (matchPattern condition.escaping condition.value) := by
  unfold valueText
  cases condition.value with
  | term value =>
      have ends : readTerm [] = ([], []) := by rfl
      have whole := readTerm_escape_append ends condition.escaping value
      rw [List.append_nil] at whole
      exact readValue?_of_readTerm whole
  | phrase value =>
      have text : ("\"" ++ Term.escapePhrase value ++ "\"").toList
          = '"' :: ((Term.escapePhrase value).toList ++ ['"']) := by
        simp
      rw [text]
      exact readPhrase?_phrase value
  | proximity words slop =>
      have text : ("\"" ++ Term.escapePhrase words ++ "\"~" ++ toString slop).toList
          = '"' :: ((Term.escapePhrase words).toList ++ '"' :: '~' :: (toString slop).toList) := by
        simp
      rw [text]
      exact readPhrase?_proximity words slop
  | range lower upper => exact readValue?_range lower upper

/-- A plain name is read up to the colon behind it. -/
theorem span_plainName {name : String} (plain : IsPlainName name) (rest : List Char)
    : (name.toList ++ ':' :: rest).span (!Term.isSpecial ·) = (name.toList, ':' :: rest) := by
  have ordinary : ∀ character ∈ name.toList, (!Term.isSpecial character) = true := by
    simpa [IsPlainName] using plain
  have colon : (!Term.isSpecial ':') = false := by decide
  rw [List.span_eq_takeWhile_dropWhile, List.takeWhile_append_of_pos ordinary,
    List.dropWhile_append_of_pos ordinary, List.takeWhile_cons_of_neg (by simp [colon]),
    List.dropWhile_cons_of_neg (by simp [colon]), List.append_nil]

theorem readMatch?_text {condition : FieldMatch} (plain : IsPlainName condition.field)
    : readMatch? condition.text = some (fieldPattern condition) := by
  have text : condition.text.toList
      = condition.field.toList ++ ':' :: (valueText condition).toList := by
    simp [text_eq]
  rw [readMatch?, text, span_plainName plain]
  simp only [readValue?_valueText, Option.map_some, String.ofList_toList, fieldPattern]

-----------------------------------------------------------------------------------------
-- What guards the values
-----------------------------------------------------------------------------------------

/-- The text of a bound: a bare star for none, and otherwise nothing special that is not taken
literally.
-/
def IsBoundText : Bound → String → Prop
  | .unbounded, text => text = "*"
  | .inclusive _, text => Term.IsGuarded .literal text
  | .exclusive _, text => Term.IsGuarded .literal text

/-- The text behind the colon keeps its values apart from what is around them. -/
def KeepsApart (escaping : Escaping) (text : String) : MatchValue → Prop
  | .term _ => Term.IsGuarded escaping text
  | .phrase _ => ∃ inside, text = "\"" ++ inside ++ "\"" ∧ Term.IsEnclosed inside ""
  | .proximity _ slop =>
      ∃ inside,
        text = "\"" ++ inside ++ "\"" ++ ("~" ++ toString slop)
        ∧ Term.IsEnclosed inside ("~" ++ toString slop)
  | .range lower upper =>
      ∃ low high,
        text = lower.opening ++ low ++ " TO " ++ high ++ upper.closing
        ∧ IsBoundText lower low
        ∧ IsBoundText upper high

theorem isBoundText_text (bound : Bound) : IsBoundText bound bound.text := by
  cases bound with
  | unbounded => rfl
  | inclusive value | exclusive value => exact Term.isGuarded_escape .literal value

theorem keepsApart_valueText (condition : FieldMatch)
    : KeepsApart condition.escaping (valueText condition) condition.value := by
  unfold valueText
  cases condition.value with
  | term value => exact Term.isGuarded_escape condition.escaping value
  | phrase value => exact ⟨_, rfl, Term.isEnclosed_escapePhrase value ""⟩
  | proximity words slop =>
      refine ⟨_, ?_, Term.isEnclosed_escapePhrase words ("~" ++ toString slop)⟩
      simp [← String.toList_inj]
  | range lower upper => exact ⟨_, _, rfl, isBoundText_text lower, isBoundText_text upper⟩

/-- A field match is read again from its text if the name of its field is written as it is: the
field, the kind of the match, its slop and bounds, and what each value asks for. The text keeps the
values apart from what is around them.
-/
theorem text_reads_as_pattern (condition : FieldMatch) (plain : IsPlainName condition.field)
    : readMatch? condition.text = some (fieldPattern condition)
      ∧ ∃ text,
        condition.text = condition.field ++ ":" ++ text
        ∧ KeepsApart condition.escaping text condition.value :=
  ⟨readMatch?_text plain, valueText condition, text_eq condition, keepsApart_valueText condition⟩

/-- A term with a pair, a star behind it, white space, a quote, and a backslash that takes nothing.
-/
def starBehindPair : FieldMatch :=
  {
    field := "term.title"
    escaping := .masked
    value := .term "a\\**\u00a0\"\\"
  }

theorem text_reads_as_pattern_starBehindPair
    : IsPlainName starBehindPair.field
      ∧ readMatch? starBehindPair.text
        = some {
          field := "term.title"
          pattern := .term
            [.literal 'a', .literal '*', .anyText, .literal '\u00a0', .literal '"', .literal '\\']
        }
      ∧ ∃ text,
        starBehindPair.text = starBehindPair.field ++ ":" ++ text
        ∧ KeepsApart starBehindPair.escaping text starBehindPair.value := by
  have plain : IsPlainName starBehindPair.field := by decide
  exact ⟨plain, text_reads_as_pattern starBehindPair plain⟩

end CqlGateway.EngineText
