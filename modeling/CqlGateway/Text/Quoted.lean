import CqlGateway.Text.HiddenTable

/-! The quoted form of a text: between double quotes, with a backslash form for quotes, backslashes
and every character that could not be read in print.
-/

namespace CqlGateway.Text

/-- The code point in hexadecimal digits without leading zeros, between braces. -/
def codePointEscape (character : Char) : List Char :=
  ['\\', 'u', '\x7b'] ++ Nat.toDigits 16 character.toNat ++ ['\x7d']

/-- A character as it stands between quotes. -/
def quotedChar (character : Char) : List Char :=
  match character with
  | '\x00' => ['\\', '0']
  | '\t' => ['\\', 't']
  | '\n' => ['\\', 'n']
  | '\r' => ['\\', 'r']
  | '"' => ['\\', '"']
  | '\\' => ['\\', '\\']
  | character => if isHidden character then codePointEscape character else [character]

/-- The text between double quotes, readable in print. -/
def quoted (text : String) : String :=
  "\"" ++ String.ofList (text.toList.flatMap quotedChar) ++ "\""

end CqlGateway.Text
