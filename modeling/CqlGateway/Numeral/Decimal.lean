import CqlGateway.Numeral.Unsigned

/-! Decimal numerals with an optional sign, point and exponent, and the question whether such a
number lies in the range of 64-bit binary floating point.
-/

namespace CqlGateway

/-- The number `significand * 10 ^ exponent`, negated if `negative` is set. -/
structure Decimal where
  negative : Bool
  significand : Nat
  exponent : Int

namespace Decimal

/-- Splits off a sign. Without one the number is positive. -/
def splitSign (text : List Char) : Bool × List Char :=
  match text with
  | '-' :: rest => (true, rest)
  | '+' :: rest => (false, rest)
  | _ => (false, text)

/-- Reads what may follow the digits of a number: nothing, or the letter `e` and a signed row of
digits.
-/
def readExponent? (text : List Char) : Option Int :=
  match text with
  | [] => some 0
  | letter :: rest =>
      if letter = 'e' || letter = 'E' then
        let (negative, digits) := splitSign rest
        if digits.isEmpty || !digits.all Char.isDigit then
          none
        else
          let value : Int := digitsValue digits
          some (if negative then -value else value)
      else
        none

/-- Splits off a point and the digits behind it. -/
def splitFraction (text : List Char) : List Char × List Char :=
  match text with
  | '.' :: rest => rest.span Char.isDigit
  | _ => ([], text)

/-- Reads a number. Digits may be missing on one side of the point, not on both. -/
def read? (text : List Char) : Option Decimal := do
  let (negative, unsigned) := splitSign text
  let (whole, afterWhole) := unsigned.span Char.isDigit
  let (fraction, afterFraction) := splitFraction afterWhole
  if whole.isEmpty && fraction.isEmpty then
    none
  let exponent ← readExponent? afterFraction
  return {
    negative := negative
    significand := digitsValue (whole ++ fraction)
    exponent := exponent - fraction.length
  }

/-- Numbers from here on round to infinity: the middle between the largest finite number and the
next power of two.
-/
def overflowBound : Nat := Nat.pow 2 1024 - Nat.pow 2 970

/-- True of a number that rounds to a finite binary number. An exponent far out of range decides
without the power.
-/
def isFinite (number : Decimal) : Bool :=
  if number.significand = 0 then
    true
  else if 0 ≤ number.exponent then
    number.exponent ≤ 400 && number.significand * Nat.pow 10 number.exponent.toNat < overflowBound
  else
    let places := (-number.exponent).toNat
    (Nat.toDigits 10 number.significand).length ≤ places
      || number.significand < overflowBound * Nat.pow 10 places

end Decimal

/-- True of a numeral that denotes a finite number. -/
def isFiniteNumeral (text : List Char) : Bool :=
  match Decimal.read? text with
  | some number => number.isFinite
  | none => false

end CqlGateway
