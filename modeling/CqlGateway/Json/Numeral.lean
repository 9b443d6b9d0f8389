import CqlGateway.Json.Basic
import CqlGateway.Numeral.Count
import CqlGateway.Numeral.Decimal

/-! Reads the numbers of a JSON text. A whole number of at most 64 bits is kept as it is. Of any
other number the leading digits that fit 64 bits count, and it becomes a binary one in steps that
are rounded one by one.
-/

namespace CqlGateway.Json

/-- Characters that a number is written with. -/
def isNumeric (character : Char) : Bool :=
  character.isDigit || character = '-' || character = '+' || character = '.' || character = 'e'
    || character = 'E'

/-- True of digits without a zero in front of others. -/
def isWholePart (digits : List Char) : Bool :=
  match digits with
  | [] => false
  | ['0'] => true
  | first :: _ => first ≠ '0'

/-- The value of a whole number. Zero with a sign and numbers past 64 bits are not whole numbers but
reals.
-/
def wholeNumber? (negative : Bool) (digits : List Char) : Option JsonNumber :=
  let value := digitsValue digits
  if negative then
    if 0 < value ∧ value ≤ Nat.pow 2 63 then some (.negative value) else none
  else if value ≤ countLimit then
    some (.natural value)
  else
    none

/-- The value with one more digit, if it still fits. -/
def extended? (value : Nat) (digit : Char) : Option Nat :=
  let next := digitsValue [digit] + 10 * value
  if next ≤ countLimit then some next else none

/-- Takes in the digits in front of the point, and counts those from the first one that does not
fit.
-/
def takeWhole : Nat → List Char → Nat × Nat
  | value, [] => (value, 0)
  | value, digit :: rest =>
      match extended? value digit with
      | some next => takeWhole next rest
      | none => (value, rest.length + 1)

/-- Takes in digits behind the point up to the first one that does not fit, and counts them. -/
def takeFraction : Nat → List Char → Nat × Nat
  | value, [] => (value, 0)
  | value, digit :: rest =>
      match extended? value digit with
      | some next =>
          let (last, places) := takeFraction next rest
          (last, places + 1)
      | none => (value, 0)

/-- The real number with these digits in front of the point and behind it, times a power of ten. -/
def realNumber? (negative : Bool) (whole fraction : List Char) (exponent : Int)
    : Option JsonNumber :=
  let (front, skipped) := takeWhole 0 whole
  let (significand, places) := takeFraction front fraction
  (Binary64.scaled? negative significand (exponent + skipped - places)).map .real

/-- The value of a number that is written with these characters, all of them. -/
def ofNumeral? (numeral : List Char) : Option Json := do
  let (negative, unsigned) :=
    match numeral with
    | '-' :: rest => (true, rest)
    | _ => (false, numeral)
  let (whole, afterWhole) := unsigned.span Char.isDigit
  let (fraction, afterFraction) := Decimal.splitFraction afterWhole
  if !isWholePart whole || (afterWhole.head? = some '.' && fraction.isEmpty) then
    none
  let exponent ← Decimal.readExponent? afterFraction
  let exact := if afterWhole.isEmpty then wholeNumber? negative whole else none
  match exact.or (realNumber? negative whole fraction exponent) with
  | some value => return .number value
  | none => return .valueless

end CqlGateway.Json
