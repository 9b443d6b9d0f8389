import CqlGateway.Json.Basic
import CqlGateway.Numeral.Shortest
import CqlGateway.Text.Padding

/-! Writes JSON values, one item or member a line, each level two spaces further in. -/

namespace CqlGateway

/-- The text of a number. -/
def JsonNumber.text : JsonNumber → String
  | .natural value => toString value
  | .negative magnitude => "-" ++ toString magnitude
  | .real value => value.text

namespace Json

/-- Two hexadecimal digits. -/
def twoHexDigits (value : Nat) : List Char :=
  [Nat.digitChar (value / 16), Nat.digitChar (value % 16)]

/-- A character as it stands in a string. -/
def stringChar (character : Char) : List Char :=
  match character with
  | '"' => ['\\', '"']
  | '\\' => ['\\', '\\']
  | '\x08' => ['\\', 'b']
  | '\x0c' => ['\\', 'f']
  | '\n' => ['\\', 'n']
  | '\r' => ['\\', 'r']
  | '\t' => ['\\', 't']
  | character =>
      if character.toNat < 0x20 then
        ['\\', 'u', '0', '0'] ++ twoHexDigits character.toNat
      else
        [character]

/-- A string with its quotes. -/
def stringText (content : String) : String :=
  "\"" ++ String.ofList (content.toList.flatMap stringChar) ++ "\""

/-- The blanks in front of a line. -/
def indentation (level : Nat) : String :=
  Text.blanks (2 * level)

/-- Lines between brackets, each at its own level, separated by commas; without lines the brackets
stand together.
-/
def bracketed (level : Nat) (first last : String) (lines : List String) : String :=
  if lines.isEmpty then
    first ++ last
  else
    first ++ "\n"
      ++ String.intercalate ",\n" (lines.map (indentation (level + 1) ++ ·))
      ++ "\n" ++ indentation level ++ last

mutual

/-- A value whose first line is already indented. -/
def prettyAt (level : Nat) : Json → String
  | .null => "null"
  | .boolean true => "true"
  | .boolean false => "false"
  | .number value => value.text
  | .string content => stringText content
  | .valueless => "null"
  | .array items => bracketed level "[" "]" (prettyItems (level + 1) items)
  | .object members => bracketed level "\x7b" "\x7d" (prettyMembers (level + 1) members)

def prettyItems (level : Nat) : List Json → List String
  | [] => []
  | item :: rest => prettyAt level item :: prettyItems level rest

def prettyMembers (level : Nat) : List (String × Json) → List String
  | [] => []
  | (name, value) :: rest =>
      (stringText name ++ ": " ++ prettyAt level value) :: prettyMembers level rest

end

/-- The text of a value, laid out for reading. -/
def pretty (value : Json) : String :=
  prettyAt 0 value

end Json

end CqlGateway
