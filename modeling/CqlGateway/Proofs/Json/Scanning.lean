import Mathlib.Data.List.TakeDrop
import Mathlib.Data.List.TakeWhile
import CqlGateway.Json.Token
import CqlGateway.Json.Writer

/-! The tokens of texts that are written as JSON. A text is told apart from what follows it unless
both belong to one number, so texts whose tokens are known may be put together around blanks and
separators. Strings and whole numbers have the token that they were written for.
-/

namespace CqlGateway

-----------------------------------------------------------------------------------------
-- Whole numbers
-----------------------------------------------------------------------------------------

/-- True of whole numbers that are at most 64 bits wide. -/
def JsonNumber.IsWhole : JsonNumber → Prop
  | .natural value => value ≤ countLimit
  | .negative magnitude => 0 < magnitude ∧ magnitude ≤ Nat.pow 2 63
  | .real _ => False

namespace Json

variable {number : JsonNumber} {value : Nat}

theorem digitsValue_toDigits (value : Nat) : digitsValue (Nat.toDigits 10 value) = value :=
  Nat.ofDigitChars_ten_toDigits

theorem isDigit_of_mem_toDigits {digit : Char} (member : digit ∈ Nat.toDigits 10 value)
    : digit.isDigit = true :=
  Nat.isDigit_of_mem_toDigits (by decide) (by decide) member

/-- The first digits of a number are those of a tenth of it, so none of them is a zero. -/
theorem head?_toDigits_ne_zero (positive : 0 < value)
    : (Nat.toDigits 10 value).head? ≠ some '0' := by
  induction value using Nat.strongRecOn with
  | _ value ih =>
      by_cases small : value < 10
      · have single : ∀ digit < 10, 0 < digit → some digit.digitChar ≠ some '0' := by decide
        rw [Nat.toDigits_of_lt_base small]
        exact single value small positive
      · have shorter := ih (value / 10) (by omega) (by omega)
        rw [Nat.toDigits_of_base_le (by decide) (Nat.le_of_not_lt small), List.head?_append]
        rwa [Option.or_of_isSome (List.isSome_head?.mpr Nat.toDigits_ne_nil)]

theorem isWholePart_toDigits (value : Nat) : isWholePart (Nat.toDigits 10 value) = true := by
  rcases Nat.eq_zero_or_pos value with rfl | positive
  · rfl
  · have noZero := head?_toDigits_ne_zero positive
    cases written : Nat.toDigits 10 value with
    | nil => exact absurd written Nat.toDigits_ne_nil
    | cons first rest =>
        rw [written] at noZero
        unfold isWholePart
        split <;> simp_all

theorem takeWhile_toDigits (value : Nat)
    : (Nat.toDigits 10 value).takeWhile Char.isDigit = Nat.toDigits 10 value :=
  List.takeWhile_eq_self_iff.mpr fun _ => isDigit_of_mem_toDigits

theorem dropWhile_toDigits (value : Nat)
    : (Nat.toDigits 10 value).dropWhile Char.isDigit = [] :=
  List.dropWhile_eq_nil_iff.mpr fun _ => isDigit_of_mem_toDigits

theorem ofNumeral?_natural (fits : value ≤ countLimit)
    : ofNumeral? (Nat.toDigits 10 value) = some (.number (.natural value)) := by
  have exact : wholeNumber? false (Nat.toDigits 10 value) = some (.natural value) := by
    rw [wholeNumber?, digitsValue_toDigits]
    simp [fits]
  unfold ofNumeral?
  split
  next negative unsigned signed =>
    split at signed
    next rest written =>
      have digit : '-'.isDigit = true := isDigit_of_mem_toDigits (written ▸ List.mem_cons_self)
      exact absurd digit (by decide)
    next =>
      obtain ⟨rfl, rfl⟩ := Prod.mk.inj signed
      simp [takeWhile_toDigits, dropWhile_toDigits, isWholePart_toDigits, exact,
        Decimal.splitFraction, Decimal.readExponent?]

theorem ofNumeral?_negative (positive : 0 < value) (fits : value ≤ Nat.pow 2 63)
    : ofNumeral? ('-' :: Nat.toDigits 10 value) = some (.number (.negative value)) := by
  have exact : wholeNumber? true (Nat.toDigits 10 value) = some (.negative value) := by
    rw [wholeNumber?, digitsValue_toDigits]
    simp only [if_true, positive, fits, true_and]
  simp [ofNumeral?, takeWhile_toDigits, dropWhile_toDigits, isWholePart_toDigits, exact,
    Decimal.splitFraction, Decimal.readExponent?]

theorem isNumeric_of_mem_text (whole : number.IsWhole)
    : ∀ character ∈ number.text.toList, isNumeric character = true := by
  have digits : ∀ value, ∀ digit ∈ Nat.toDigits 10 value, isNumeric digit = true := by
    intro value digit member
    simp [isNumeric, isDigit_of_mem_toDigits member]
  cases number with
  | natural value => simpa [JsonNumber.text] using digits value
  | negative magnitude =>
      have minus : isNumeric '-' = true := rfl
      simpa [JsonNumber.text, minus] using digits magnitude
  | real value => exact absurd whole id

/-- A whole number is read as it was written. -/
theorem ofNumeral?_text (whole : number.IsWhole)
    : ofNumeral? number.text.toList = some (.number number) := by
  cases number with
  | natural value =>
      rw [JsonNumber.text, Nat.toString_eq_ofList_toDigits, String.toList_ofList]
      exact ofNumeral?_natural whole
  | negative magnitude =>
      obtain ⟨positive, fits⟩ := whole
      have written : (JsonNumber.negative magnitude).text.toList
          = '-' :: Nat.toDigits 10 magnitude := by
        simp [JsonNumber.text]
      rw [written, ofNumeral?_negative positive fits]
  | real value => exact absurd whole id

end Json

namespace JsonToken

open Json (stringChar twoHexDigits)

variable {character first : Char} {text more rest : List Char} {tokens others : List JsonToken}

-----------------------------------------------------------------------------------------
-- Strings
-----------------------------------------------------------------------------------------

theorem joinUnits?_character (character : Char) (units : List StringUnit)
    : joinUnits? (.character character :: units) = (character :: ·) <$> joinUnits? units := by
  rw [joinUnits?]

/-- A unit below the surrogates stands for a character alone. -/
theorem joinUnits?_code {code : Nat} (low : code < 0xD800) (units : List StringUnit)
    : joinUnits? (.code code :: units) = (Char.ofNat code :: ·) <$> joinUnits? units := by
  have notHigh : ¬(0xD800 ≤ code ∧ code < 0xDC00) := by omega
  have notLow : ¬(0xDC00 ≤ code ∧ code < 0xE000) := by omega
  have notSurrogate : ¬(0xD800 ≤ code ∧ code < 0xE000) := by omega
  rcases units with _ | ⟨next | next, units⟩
  · simp only [joinUnits?, if_neg notSurrogate]
  · simp only [joinUnits?, if_neg notSurrogate]
  · rw [joinUnits?, if_neg notHigh, if_neg notLow]

/-- A text is read as one unit, in front of any text. -/
def IsReadAs (text : List Char) (unit : StringUnit) : Prop :=
  ∀ rest,
    readUnits? (text ++ rest)
    = (readUnits? rest).map fun (units, behind) => (unit :: units, behind)

theorem isReadAs_escaped {letter : Char} (noCode : letter ≠ 'u')
    (found : escapedChar? letter = some character)
    : IsReadAs ['\\', letter] (.character character) := by
  intro rest
  rw [List.cons_append, List.singleton_append, readUnits?, found]
  · cases readUnits? rest <;> rfl
  · simp [noCode]

theorem isReadAs_plain (plain : character ≠ '"' ∧ character ≠ '\\')
    (noControl : ¬character.toNat < 0x20)
    : IsReadAs [character] (.character character) := by
  intro rest
  rw [List.singleton_append, readUnits?]
  · cases readUnits? rest <;> simp [plain, noControl]
  all_goals simp [plain]

/-- Two hexadecimal digits are enough for the characters that must not stand for themselves. -/
theorem isReadAs_code {code : Nat} (small : code < 0x20)
    : IsReadAs (['\\', 'u', '0', '0'] ++ twoHexDigits code) (.code code) := by
  intro rest
  have digit : ∀ value < 0x10, hexValue? (Nat.digitChar value) = some value := by decide
  have zero : hexValue? '0' = some 0 := rfl
  have unit : codeUnit? '0' '0' (Nat.digitChar (code / 16)) (Nat.digitChar (code % 16))
      = some (.code code) := by
    simp only [codeUnit?, zero, digit (code / 16) (by omega), digit (code % 16) (by omega)]
    simp only [Option.bind_eq_bind, Option.bind_some, Option.pure_def]
    congr 2
    omega
  simp only [twoHexDigits, List.cons_append, List.nil_append, readUnits?, unit]
  cases readUnits? rest <;> rfl

/-- A character is read back as one unit, which stands for it alone. By the cases of the writing. -/
theorem exists_unit_of_stringChar (character : Char)
    : ∃ unit,
        IsReadAs (stringChar character) unit
        ∧ ∀ units, joinUnits? (unit :: units) = (character :: ·) <$> joinUnits? units := by
  fun_cases stringChar character with
  | case1 | case2 | case3 | case4 | case5 | case6 | case7 =>
      exact ⟨_, isReadAs_escaped (by decide) rfl, joinUnits?_character _⟩
  | case8 _ _ _ _ _ _ _ _ control =>
      have alone := joinUnits?_code (Nat.lt_trans control (by decide))
      rw [Char.ofNat_toNat] at alone
      exact ⟨_, isReadAs_code control, alone⟩
  | case9 _ notQuote notEscape _ _ _ _ _ noControl =>
      exact ⟨_, isReadAs_plain ⟨notQuote, notEscape⟩ noControl, joinUnits?_character _⟩

/-- A content is read up to the quote behind it. -/
theorem exists_units_of_content (content : List Char)
    : ∃ units,
        (∀ rest, readUnits? (content.flatMap stringChar ++ '"' :: rest) = some (units, rest))
        ∧ joinUnits? units = some content := by
  induction content with
  | nil => exact ⟨[], fun rest => by simp [readUnits?], by simp [joinUnits?]⟩
  | cons character others ih =>
      obtain ⟨units, read, joined⟩ := ih
      obtain ⟨unit, first, alone⟩ := exists_unit_of_stringChar character
      refine ⟨unit :: units, fun rest => ?_, ?_⟩
      · rw [List.flatMap_cons, List.append_assoc, first, read]
        rfl
      · rw [alone, joined]
        rfl

-----------------------------------------------------------------------------------------
-- Rows of tokens
-----------------------------------------------------------------------------------------

/-- Nothing that begins here continues a number. -/
def EndsNumeral (text : List Char) : Prop :=
  ∀ first ∈ text.head?, Json.isNumeric first = false

/-- A text has these tokens in front of any text that does not continue a number. -/
def HasTokens (text : List Char) (tokens : List JsonToken) : Prop :=
  ∀ rest, EndsNumeral rest → all? (text ++ rest) = (tokens ++ ·) <$> all? rest

theorem endsNumeral_nil : EndsNumeral [] := by
  intro first begins
  cases begins

theorem endsNumeral_cons (other : Json.isNumeric first = false) : EndsNumeral (first :: text) := by
  rintro _ ⟨⟩
  exact other

theorem EndsNumeral.append (ends : EndsNumeral text) (endsToo : EndsNumeral rest)
    : EndsNumeral (text ++ rest) := by
  cases text with
  | nil => exact endsToo
  | cons => exact ends

theorem EndsNumeral.split (ends : EndsNumeral text)
    : text.takeWhile Json.isNumeric = [] ∧ text.dropWhile Json.isNumeric = text := by
  cases text with
  | nil => exact ⟨rfl, rfl⟩
  | cons first others =>
      have other := Bool.eq_false_iff.mp (ends first rfl)
      exact ⟨List.takeWhile_cons_of_neg other, List.dropWhile_cons_of_neg other⟩

/-- The tokens of a text with nothing behind it. -/
theorem HasTokens.all? (has : HasTokens text tokens) : all? text = some tokens := by
  have whole := has [] endsNumeral_nil
  rw [List.append_nil] at whole
  rw [whole]
  simp [JsonToken.all?]

theorem all?_blanks (blanks : ∀ blank ∈ text, isBlank blank = true)
    : JsonToken.all? (text ++ rest) = JsonToken.all? rest := by
  induction text with
  | nil => rfl
  | cons first others ih =>
      obtain ⟨blank, blanks⟩ := List.forall_mem_cons.mp blanks
      rw [List.cons_append, JsonToken.all?, if_pos blank, ih blanks]

theorem HasTokens.behind_blanks (blanks : ∀ blank ∈ text, isBlank blank = true)
    (has : HasTokens more tokens)
    : HasTokens (text ++ more) tokens := by
  intro rest ends
  rw [List.append_assoc, all?_blanks blanks, has rest ends]

theorem hasTokens_single {token : JsonToken} (noBlank : isBlank first = false)
    (found : ∀ rest, EndsNumeral rest → read? first (text ++ rest) = some (token, rest))
    : HasTokens (first :: text) [token] := by
  intro rest ends
  rw [List.cons_append, JsonToken.all?, if_neg (Bool.eq_false_iff.mp noBlank)]
  split
  · next same =>
      obtain ⟨rfl, rfl⟩ := Prod.mk.inj (Option.some.inj (same.symm.trans (found rest ends)))
      rfl
  · next none => cases none.symm.trans (found rest ends)

theorem HasTokens.append (has : HasTokens text tokens) (hasToo : HasTokens more others)
    (ends : EndsNumeral more)
    : HasTokens (text ++ more) (tokens ++ others) := by
  intro rest endsToo
  rw [List.append_assoc, has _ (ends.append endsToo), hasToo rest endsToo, Functor.map_map]
  simp only [List.append_assoc]

theorem isNumeric_of_isBlank (blank : isBlank first = true) : Json.isNumeric first = false := by
  have cases : ((first = ' ' ∨ first = '\t') ∨ first = '\n') ∨ first = '\r' := by
    simpa [isBlank] using blank
  rcases cases with ((rfl | rfl) | rfl) | rfl <;> rfl

/-- Behind a blank anything may follow. -/
theorem HasTokens.append_blank (has : HasTokens text tokens) (blank : isBlank first = true)
    (hasToo : HasTokens more others)
    : HasTokens (text ++ first :: more) (tokens ++ others) := by
  intro rest endsToo
  rw [List.append_assoc, List.cons_append, has _ (endsNumeral_cons (isNumeric_of_isBlank blank)),
    JsonToken.all?, if_pos blank, hasToo rest endsToo, Functor.map_map]
  simp only [List.append_assoc]

-----------------------------------------------------------------------------------------
-- Single tokens
-----------------------------------------------------------------------------------------

theorem hasTokens_null : HasTokens "null".toList [.scalar .null] := by
  change HasTokens ['n', 'u', 'l', 'l'] _
  exact hasTokens_single rfl fun _ _ => rfl

theorem hasTokens_true : HasTokens "true".toList [.scalar (.boolean true)] := by
  change HasTokens ['t', 'r', 'u', 'e'] _
  exact hasTokens_single rfl fun _ _ => rfl

theorem hasTokens_false : HasTokens "false".toList [.scalar (.boolean false)] := by
  change HasTokens ['f', 'a', 'l', 's', 'e'] _
  exact hasTokens_single rfl fun _ _ => rfl

theorem hasTokens_stringText (content : String)
    : HasTokens (Json.stringText content).toList [.text (some content)] := by
  obtain ⟨units, read, joined⟩ := exists_units_of_content content.toList
  have written : (Json.stringText content).toList
      = '"' :: (content.toList.flatMap stringChar ++ ['"']) := by
    simp [Json.stringText]
  rw [written]
  refine hasTokens_single rfl fun rest _ => ?_
  rw [List.append_assoc, List.singleton_append, read?, read]
  simp [ofUnits, joined]

/-- A character that a number is written with begins a number. -/
theorem read?_of_isNumeric (numeric : Json.isNumeric first = true)
    : read? first text
      = (Json.ofNumeral? (first :: text.takeWhile Json.isNumeric)).map fun value =>
        (.scalar value, text.dropWhile Json.isNumeric) := by
  unfold read?
  split
  all_goals first | rfl | cases numeric

theorem hasTokens_number {number : JsonNumber} (whole : number.IsWhole)
    : HasTokens number.text.toList [.scalar (.number number)] := by
  have read := Json.ofNumeral?_text whole
  have all := Json.isNumeric_of_mem_text whole
  cases written : number.text.toList with
  | nil =>
      rw [written] at read
      cases read
  | cons first others =>
      rw [written] at read all
      obtain ⟨numeric, all⟩ := List.forall_mem_cons.mp all
      have noBlank : isBlank first = false := by
        cases blank : isBlank first with
        | false => rfl
        | true => cases numeric.symm.trans (isNumeric_of_isBlank blank)
      refine hasTokens_single noBlank fun rest ends => ?_
      obtain ⟨stops, kept⟩ := ends.split
      rw [read?_of_isNumeric numeric, List.takeWhile_append_of_pos all,
        List.dropWhile_append_of_pos all, stops, kept, List.append_nil, read]
      rfl

end JsonToken

end CqlGateway
