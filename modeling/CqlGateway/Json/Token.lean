import CqlGateway.Json.Numeral

/-! The tokens of a JSON text. Blanks between tokens are the space, the tab and the two line ends
only.
-/

namespace CqlGateway

/-- A bracket, a separator, a string, or a value that is written in one piece. -/
inductive JsonToken where
  | openArray
  | closeArray
  | openObject
  | closeObject
  | comma
  | colon
  /-- A string. One with an unpaired surrogate has no content. -/
  | text (content : Option String)
  | scalar (value : Json)

namespace JsonToken

def isBlank (character : Char) : Bool :=
  character = ' ' || character = '\t' || character = '\n' || character = '\r'

/-- One step of a string: a character, or a 16-bit unit given by its number. -/
inductive StringUnit where
  | character (value : Char)
  | code (value : Nat)

def hexValue? (character : Char) : Option Nat :=
  if '0' ≤ character ∧ character ≤ '9' then
    some (character.toNat - '0'.toNat)
  else if 'a' ≤ character ∧ character ≤ 'f' then
    some (character.toNat - 'a'.toNat + 10)
  else if 'A' ≤ character ∧ character ≤ 'F' then
    some (character.toNat - 'A'.toNat + 10)
  else
    none

/-- The unit that four hexadecimal digits name. -/
def codeUnit? (first second third fourth : Char) : Option StringUnit := do
  let first ← hexValue? first
  let second ← hexValue? second
  let third ← hexValue? third
  let fourth ← hexValue? fourth
  return .code (((first * 16 + second) * 16 + third) * 16 + fourth)

/-- The character that stands for itself behind a backslash, or is named by a letter. -/
def escapedChar? (letter : Char) : Option Char :=
  match letter with
  | '"' => some '"'
  | '\\' => some '\\'
  | '/' => some '/'
  | 'b' => some '\x08'
  | 'f' => some '\x0c'
  | 'n' => some '\n'
  | 'r' => some '\r'
  | 't' => some '\t'
  | _ => none

/-- Reads a string up to its closing quote: its units and the characters behind it. Control
characters must be written with a backslash.
-/
def readUnits? : List Char → Option (List StringUnit × List Char)
  | [] => none
  | '"' :: rest => some ([], rest)
  | '\\' :: 'u' :: first :: second :: third :: fourth :: rest => do
      let unit ← codeUnit? first second third fourth
      let (units, behind) ← readUnits? rest
      return (unit :: units, behind)
  | '\\' :: letter :: rest => do
      let character ← escapedChar? letter
      let (units, behind) ← readUnits? rest
      return (.character character :: units, behind)
  | character :: rest =>
      if character = '\\' || character.toNat < 0x20 then
        none
      else do
        let (units, behind) ← readUnits? rest
        return (.character character :: units, behind)

/-- The characters of a row of units. A leading surrogate pairs with the trailing one right behind
it, and no surrogate may stay alone.
-/
def joinUnits? : List StringUnit → Option (List Char)
  | [] => some []
  | .character character :: rest => (character :: ·) <$> joinUnits? rest
  | .code high :: following@(.code low :: rest) =>
      if 0xD800 ≤ high ∧ high < 0xDC00 then
        if 0xDC00 ≤ low ∧ low < 0xE000 then
          (Char.ofNat (0x10000 + (high - 0xD800) * 0x400 + (low - 0xDC00)) :: ·) <$> joinUnits? rest
        else
          none
      else if 0xDC00 ≤ high ∧ high < 0xE000 then
        none
      else
        (Char.ofNat high :: ·) <$> joinUnits? following
  | .code code :: rest =>
      if 0xD800 ≤ code ∧ code < 0xE000 then none else (Char.ofNat code :: ·) <$> joinUnits? rest

/-- A string with these units. -/
def ofUnits (units : List StringUnit) : JsonToken :=
  .text ((joinUnits? units).map String.ofList)

/-- The token that starts with a character, and the characters behind it. -/
def read? (first : Char) (rest : List Char) : Option (JsonToken × List Char) :=
  match first, rest with
  | '[', rest => some (.openArray, rest)
  | ']', rest => some (.closeArray, rest)
  | '{', rest => some (.openObject, rest)
  | '}', rest => some (.closeObject, rest)
  | ',', rest => some (.comma, rest)
  | ':', rest => some (.colon, rest)
  | '"', rest => (readUnits? rest).map fun (units, behind) => (ofUnits units, behind)
  | 'n', 'u' :: 'l' :: 'l' :: rest => some (.scalar .null, rest)
  | 't', 'r' :: 'u' :: 'e' :: rest => some (.scalar (.boolean true), rest)
  | 'f', 'a' :: 'l' :: 's' :: 'e' :: rest => some (.scalar (.boolean false), rest)
  | first, rest =>
      (Json.ofNumeral? (first :: rest.takeWhile Json.isNumeric)).map fun value =>
        (.scalar value, rest.dropWhile Json.isNumeric)

/-- What is left of a string is shorter than what was read. -/
theorem readUnits?_length {characters behind : List Char} {units : List StringUnit}
    (h : readUnits? characters = some (units, behind))
    : behind.length < characters.length := by
  fun_induction readUnits? characters generalizing units behind with
  | case1 => simp at h
  | case2 rest => simp_all
  | case3 first second third fourth rest ih =>
      simp only [bind, Option.bind_eq_some_iff, pure, Option.some.injEq, Prod.mk.injEq] at h
      obtain ⟨_, _, ⟨_, tail⟩, found, _, rfl⟩ := h
      have := ih found
      simp only [List.length_cons]
      omega
  | case4 letter rest _ ih =>
      simp only [bind, Option.bind_eq_some_iff, pure, Option.some.injEq, Prod.mk.injEq] at h
      obtain ⟨_, _, ⟨_, tail⟩, found, _, rfl⟩ := h
      have := ih found
      simp only [List.length_cons]
      omega
  | case5 => simp at h
  | case6 character rest _ _ _ _ ih =>
      simp only [bind, Option.bind_eq_some_iff, pure, Option.some.injEq, Prod.mk.injEq] at h
      obtain ⟨⟨_, tail⟩, found, _, rfl⟩ := h
      have := ih found
      simp only [List.length_cons]
      omega

/-- What is left behind a token is no longer than what stood behind its first character. -/
theorem read?_length {first : Char} {rest behind : List Char} {token : JsonToken}
    (h : read? first rest = some (token, behind))
    : behind.length ≤ rest.length := by
  unfold read? at h
  split at h
  case h_7 =>
    simp only [Option.map_eq_some_iff, Prod.mk.injEq] at h
    obtain ⟨⟨units, tail⟩, found, _, rfl⟩ := h
    exact Nat.le_of_lt (readUnits?_length found)
  case h_11 =>
    simp only [Option.map_eq_some_iff, Prod.mk.injEq] at h
    obtain ⟨_, _, _, rfl⟩ := h
    exact (List.dropWhile_sublist _).length_le
  all_goals
    simp only [Option.some.injEq, Prod.mk.injEq] at h
    obtain ⟨_, rfl⟩ := h
    simp +arith

/-- All tokens of a text. -/
def all? (text : List Char) : Option (List JsonToken) :=
  match text with
  | [] => some []
  | first :: rest =>
      if isBlank first then
        all? rest
      else
        match _found : read? first rest with
        | some (token, behind) => (token :: ·) <$> all? behind
        | none => none
termination_by text.length
decreasing_by
  · simp
  · have := read?_length _found
    simp only [List.length_cons]
    omega

end JsonToken

end CqlGateway
