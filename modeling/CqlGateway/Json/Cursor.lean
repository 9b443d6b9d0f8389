import CqlGateway.Json.Fault
import CqlGateway.Json.Token

/-! Reads a JSON text piece by piece, keeping the place up to which it is read, and stops at the
first fault. A value can be read for its content or be skipped; what is skipped need only be well
formed, so its numbers may be out of range and its surrogates alone. What repeats itself takes fuel,
of which two units for each character of the text are enough.
-/

namespace CqlGateway.Json

/-- What is left of a text, and the place where that begins. -/
structure Cursor where
  rest : List Char
  position : Position

/-- The place behind a character. -/
def Position.behind (position : Position) (character : Char) : Position :=
  if character = '\n' then
    ⟨position.line + 1, 0⟩
  else
    ⟨position.line, position.column + character.utf8Size⟩

/-- The place so many bytes behind another one, or the end of the text. It may lie inside a
character.
-/
def Position.forward (position : Position) : List Char → Nat → Position
  | _, 0 => position
  | [], _ => position
  | character :: rest, bytes =>
      if character.utf8Size ≤ bytes then
        (position.behind character).forward rest (bytes - character.utf8Size)
      else
        ⟨position.line, position.column + bytes⟩

/-- Reading from a cursor on, up to a fault. -/
abbrev Reading := StateT Cursor (Except Fault)

namespace Reading

variable {α : Type}

/-- Stops so many bytes further. -/
def failBehind (bytes : Nat) (cause : Cause) : Reading α := do
  let cursor ← get
  throw ⟨cause, cursor.position.forward cursor.rest bytes⟩

/-- Stops in front of what is not read yet. -/
def failHere (cause : Cause) : Reading α :=
  failBehind 0 cause

/-- Stops with the first byte of what is not read yet, which is the faulty one. -/
def failAt (cause : Cause) : Reading α :=
  failBehind 1 cause

def peek? : Reading (Option Char) := do
  return (← get).rest.head?

def advance : Reading Unit :=
  modify fun cursor =>
    match cursor.rest with
    | [] => cursor
    | character :: rest => ⟨rest, cursor.position.behind character⟩

/-- The cursor behind the blanks in front of it. -/
def behindBlanks (position : Position) : List Char → Cursor
  | [] => ⟨[], position⟩
  | character :: rest =>
      if JsonToken.isBlank character then
        behindBlanks (position.behind character) rest
      else
        ⟨character :: rest, position⟩

/-- The next character that is no blank. -/
def next? : Reading (Option Char) := do
  modify fun cursor => behindBlanks cursor.position cursor.rest
  peek?

/-- The character that a value starts with. -/
def valueStart : Reading Char := do
  match ← next? with
  | some character => return character
  | none => failHere .endInValue

/-- The rest of a word. -/
def letters : List Char → Reading Unit
  | [] => pure ()
  | letter :: rest => do
      match ← peek? with
      | none => failHere .endInValue
      | some character =>
          if character = letter then
            advance
            letters rest
          else
            failAt .noWord

/-! ## Strings -/

/-- The number that four hexadecimal digits stand for. -/
def hexUnit : Reading Nat := do
  let cursor ← get
  let digits := cursor.rest.take 4
  match digits.mapM JsonToken.hexValue? with
  | some [first, second, third, fourth] =>
      set (Cursor.mk (cursor.rest.drop 4) (cursor.position.forward cursor.rest 4))
      return ((first * 16 + second) * 16 + third) * 16 + fourth
  | _ =>
      if 4 ≤ (String.ofList digits).utf8ByteSize then
        failBehind 4 .unknownEscape
      else
        failBehind 4 .endInString

/-- Reads one character of an escape that has to follow another one. -/
def pairedWith (expected : Char) : Reading Unit := do
  match ← peek? with
  | none => failHere .endInString
  | some character =>
      if character = expected then
        advance
      else
        failAt .brokenSurrogatePair

/-- The character of an escape with a number, which takes a second one for a leading surrogate. -/
def numberedChar : Reading Char := do
  let high ← hexUnit
  if 0xDC00 ≤ high ∧ high < 0xE000 then
    failHere .loneSurrogate
  else if 0xD800 ≤ high ∧ high < 0xDC00 then
    pairedWith '\\'
    pairedWith 'u'
    let low ← hexUnit
    if 0xDC00 ≤ low ∧ low < 0xE000 then
      return Char.ofNat (0x10000 + (high - 0xD800) * 0x400 + (low - 0xDC00))
    else
      failHere .loneSurrogate
  else
    return Char.ofNat high

/-- The character of an escape, behind the backslash. -/
def escapedChar : Reading Char := do
  match ← peek? with
  | none => failHere .endInString
  | some 'u' =>
      advance
      numberedChar
  | some letter =>
      match JsonToken.escapedChar? letter with
      | some character =>
          advance
          return character
      | none => failAt .unknownEscape

/-- Passes an escape, behind the backslash. -/
def skipEscape : Reading Unit := do
  match ← peek? with
  | none => failHere .endInString
  | some 'u' =>
      advance
      let _ ← hexUnit
  | some letter =>
      if (JsonToken.escapedChar? letter).isSome then
        advance
      else
        failAt .unknownEscape

/-- The characters of a string from the opening quote on, behind those that are read already, the
last of which stands in front.
-/
def stringRest : (fuel : Nat) → List Char → Reading String
  | 0, before => return String.ofList before.reverse
  | fuel + 1, before => do
      match ← peek? with
      | none => failHere .endInString
      | some '"' =>
          advance
          return String.ofList before.reverse
      | some '\\' =>
          advance
          stringRest fuel ((← escapedChar) :: before)
      | some character =>
          if character.toNat < 0x20 then
            failAt .controlCharacter
          else
            advance
            stringRest fuel (character :: before)

/-- Passes a string from the opening quote on. -/
def skipStringRest : (fuel : Nat) → Reading Unit
  | 0 => pure ()
  | fuel + 1 => do
      match ← peek? with
      | none => failHere .endInString
      | some '"' => advance
      | some '\\' =>
          advance
          skipEscape
          skipStringRest fuel
      | some character =>
          if character.toNat < 0x20 then
            failHere .controlCharacter
          else
            advance
            skipStringRest fuel

/-- The content of a string, whose opening quote is the next character. -/
def string (fuel : Nat) : Reading String := do
  advance
  stringRest fuel []

/-- Passes a string, whose opening quote is the next character. -/
def skipString (fuel : Nat) : Reading Unit := do
  advance
  skipStringRest fuel

/-! ## Numbers -/

/-- Passes a digit and those behind it; instead of the first one the text may end, with a cause. -/
def digits (atEnd : Cause) : Reading Unit := do
  match ← peek? with
  | none => failHere atEnd
  | some character =>
      if character.isDigit then
        modify fun cursor =>
          let run := cursor.rest.takeWhile Char.isDigit
          ⟨cursor.rest.drop run.length, cursor.position.forward cursor.rest run.length⟩
      else
        failAt .malformedNumber

/-- Passes the next character if it is one of these. -/
def accept (characters : List Char) : Reading Bool := do
  match ← peek? with
  | some character =>
      if characters.contains character then
        advance
        return true
      else
        return false
  | none => return false

/-- Passes a number. -/
def skipNumber (atEnd : Cause) : Reading Unit := do
  let _ ← accept ['-']
  if ← accept ['0'] then
    match ← peek? with
    | some character =>
        if character.isDigit then
          failAt .malformedNumber
    | none => pure ()
  else
    digits atEnd
  if ← accept ['.'] then
    digits atEnd
  if ← accept ['e', 'E'] then
    let _ ← accept ['+', '-']
    digits atEnd

/-- Exponents are counted up to here. -/
def exponentLimit : Nat := Nat.pow 2 31 - 1

/-- How many digits stand behind the one with which an exponent passes the limit. -/
def digitsBehindLimit : (value : Nat) → List Char → Nat
  | _, [] => 0
  | value, digit :: rest =>
      let next := digitsValue [digit] + 10 * value
      if next ≤ exponentLimit then digitsBehindLimit next rest else rest.length

/-- The digits of a numeral's exponent. -/
def exponentDigits (numeral : List Char) : List Char :=
  let exponent := numeral.dropWhile fun character => character ≠ 'e' && character ≠ 'E'
  (Decimal.splitSign (exponent.drop 1)).2

/-- The value of a number. One out of range is read to its end, or to the digit with which its
exponent passes the limit.
-/
def number : Reading JsonNumber := do
  let before := (← get).rest
  skipNumber .endInValue
  let behind ← get
  let numeral := before.take (before.length - behind.rest.length)
  match ofNumeral? numeral with
  | some (.number value) => return value
  | _ =>
      let unread := digitsBehindLimit 0 (exponentDigits numeral)
      throw ⟨.numberOutOfRange, ⟨behind.position.line, behind.position.column - unread⟩⟩

/-! ## Lists and objects -/

/-- True if another item stands in front of the closing bracket. -/
def nextItem (first : Bool) : Reading Bool := do
  match ← next? with
  | none => failHere .endInList
  | some ']' => return false
  | some character =>
      if first then
        return true
      else if character = ',' then
        advance
        match ← next? with
        | none => failHere .endInValue
        | some ']' => failAt .trailingComma
        | some _ => return true
      else
        failAt .openList

/-- True if another member stands in front of the closing brace. Its opening quote comes next. -/
def nextName (first : Bool) : Reading Bool := do
  match ← next? with
  | none => failHere .endInObject
  | some '}' => return false
  | some character =>
      if first then
        if character = '"' then return true else failAt .nameWithoutQuotes
      else if character = ',' then
        advance
        match ← next? with
        | none => failHere .endInValue
        | some '"' => return true
        | some '}' => failAt .trailingComma
        | some _ => failAt .nameWithoutQuotes
      else
        failAt .openObject

/-- Passes the closing bracket of a list with no further items. -/
def closeList : Reading Unit := do
  match ← next? with
  | none => failHere .endInList
  | some ']' => advance
  | some ',' =>
      advance
      match ← next? with
      | some ']' => failAt .trailingComma
      | _ => failAt .trailingText
  | some _ => failAt .trailingText

/-- Passes the colon behind a name. -/
def colon : Reading Unit := do
  match ← next? with
  | none => failHere .endInObject
  | some ':' => advance
  | some _ => failAt .noColon

/-- Passes the name of a member, with the colon. -/
def skipName (fuel : Nat) : Reading Unit := do
  match ← next? with
  | none => failHere .endInObject
  | some '"' =>
      skipString fuel
      colon
  | some _ => failAt .nameWithoutQuotes

mutual

/-- Passes a value. -/
def skipValue : (fuel : Nat) → Reading Unit
  | 0 => pure ()
  | fuel + 1 => do
      match ← valueStart with
      | 'n' => letters ['n', 'u', 'l', 'l']
      | 't' => letters ['t', 'r', 'u', 'e']
      | 'f' => letters ['f', 'a', 'l', 's', 'e']
      | '"' => skipString fuel
      | '[' =>
          advance
          skipListRest fuel false
      | '{' =>
          advance
          skipObjectRest fuel false
      | character =>
          if character.isDigit || character = '-' then
            skipNumber .malformedNumber
          else
            failAt .noValue

/-- Passes what is left of a list; in front of an item there is a comma unless it is the first. -/
def skipListRest : (fuel : Nat) → (afterItem : Bool) → Reading Unit
  | 0, _ => pure ()
  | fuel + 1, afterItem => do
      match ← next? with
      | none => failHere .endInList
      | some ']' => advance
      | some character =>
          if afterItem then
            if character = ',' then advance else failAt .openList
          skipValue fuel
          skipListRest fuel true

/-- Passes what is left of an object. -/
def skipObjectRest : (fuel : Nat) → (afterMember : Bool) → Reading Unit
  | 0, _ => pure ()
  | fuel + 1, afterMember => do
      match ← next? with
      | none => failHere .endInObject
      | some '}' => advance
      | some character =>
          if afterMember then
            if character = ',' then advance else failAt .openObject
          skipName fuel
          skipValue fuel
          skipObjectRest fuel true

end

/-- Passes a value of another kind than the expected one, and stops. Lists and objects are not gone
into.
-/
def unexpected (fuel : Nat) (expected : String) : Reading α := do
  match ← peek? with
  | some 'n' =>
      letters ['n', 'u', 'l', 'l']
      failHere (.wrongKind .null expected)
  | some 't' =>
      letters ['t', 'r', 'u', 'e']
      failHere (.wrongKind (.boolean true) expected)
  | some 'f' =>
      letters ['f', 'a', 'l', 's', 'e']
      failHere (.wrongKind (.boolean false) expected)
  | some '"' => failHere (.wrongKind (.text (← string fuel)) expected)
  | some '[' => failHere (.wrongKind .list expected)
  | some '{' => failHere (.wrongKind .object expected)
  | some character =>
      if character.isDigit || character = '-' then
        failHere (.wrongKind (.ofNumber (← number)) expected)
      else
        failAt .noValue
  | none => failAt .noValue

end Reading

end CqlGateway.Json
