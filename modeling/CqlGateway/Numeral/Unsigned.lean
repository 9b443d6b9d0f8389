/-! Unsigned numerals: ASCII digits, with or without a plus sign in front. -/

namespace CqlGateway

/-- The value of a row of ASCII digits. -/
def digitsValue (digits : List Char) : Nat :=
  digits.foldl (fun value digit => 10 * value + (digit.toNat - '0'.toNat)) 0

/-- Reads a numeral whose value is at most `limit`. At least one digit is needed; zeros in front do
not matter.
-/
def readUnsigned? (limit : Nat) (text : List Char) : Option Nat :=
  let digits :=
    match text with
    | '+' :: rest => rest
    | _ => text
  if digits.isEmpty || !digits.all Char.isDigit then
    none
  else
    let value := digitsValue digits
    if value ≤ limit then some value else none

end CqlGateway
