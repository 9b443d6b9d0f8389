/-! Finite 64-bit binary floating point numbers. An operation takes its exact result and rounds it
once, to the nearest number.
-/

namespace CqlGateway

/-- The number `mantissa * 2 ^ exponent`, negated if `negative` is set. -/
structure Binary64 where
  negative : Bool
  mantissa : Nat
  exponent : Int
deriving DecidableEq

namespace Binary64

/-- The exponent of the smallest positive number. -/
def leastExponent : Int := -1074

/-- The power of a base with a natural or a negative exponent, as a ratio. -/
def powerRatio (base : Nat) (exponent : Int) : Nat × Nat :=
  if 0 ≤ exponent then (Nat.pow base exponent.toNat, 1) else (1, Nat.pow base (-exponent).toNat)

/-- The quotient rounded to the nearest whole number, and to the even one of two that are equally
near.
-/
def roundQuotient (numerator denominator : Nat) : Nat :=
  let whole := numerator / denominator
  let twice := 2 * (numerator % denominator)
  if twice < denominator || (twice = denominator && whole % 2 = 0) then whole else whole + 1

/-- The least power of two that keeps the quotient below 53 bits, no lower than the smallest
number's.
-/
def exponentFor (numerator denominator : Nat) : Int :=
  let estimate : Int := (Nat.log2 numerator : Int) - Nat.log2 denominator - 52
  let (up, down) := powerRatio 2 estimate
  let tooLarge := numerator * down < denominator * up * Nat.pow 2 52
  let exponent := if tooLarge then estimate - 1 else estimate
  max exponent leastExponent

/-- Zero with a sign. -/
def zero (negative : Bool) : Binary64 :=
  {
    negative := negative
    mantissa := 0
    exponent := leastExponent
  }

/-- The number nearest to a ratio. Rounding may carry into a 54th bit, which is then given up again.
-/
def nearest (negative : Bool) (numerator denominator : Nat) : Binary64 :=
  let exponent := exponentFor numerator denominator
  let (up, down) := powerRatio 2 exponent
  let mantissa := roundQuotient (numerator * down) (denominator * up)
  if mantissa = 0 then
    zero negative
  else if mantissa = Nat.pow 2 53 then
    {
      negative := negative
      mantissa := Nat.pow 2 52
      exponent := exponent + 1
    }
  else
    {
      negative := negative
      mantissa := mantissa
      exponent := exponent
    }

/-- The exponent of the largest number, which has 53 bits. -/
def greatestExponent : Int := 971

/-- True of a number that lies in the range of the format. -/
def isFinite (number : Binary64) : Bool :=
  number.exponent ≤ greatestExponent

/-- The product, rounded. -/
def times (first second : Binary64) : Binary64 :=
  let (up, down) := powerRatio 2 (first.exponent + second.exponent)
  nearest (first.negative ^^ second.negative) (first.mantissa * second.mantissa * up) down

/-- The quotient by a number other than zero, rounded. -/
def dividedBy (first second : Binary64) : Binary64 :=
  let (up, down) := powerRatio 2 (first.exponent - second.exponent)
  nearest (first.negative ^^ second.negative) (first.mantissa * up) (second.mantissa * down)

/-- The number nearest to a power of ten. -/
def powerOfTen (places : Nat) : Binary64 :=
  nearest false (Nat.pow 10 places) 1

/-- The largest power of ten in the range of the format. -/
def greatestPlaces : Nat := 308

/-- The number that a significand of at most 64 bits and a power of ten come to, if it is finite.
The significand, the power and each operation are rounded on their own, so the outcome may lie a few
numbers beside the nearest one. Below the reach of one power of ten it takes two divisions, and from
the reach of two on nothing is left.
-/
def scaled? (negative : Bool) (significand : Nat) (exponent : Int) : Option Binary64 :=
  let whole := nearest negative significand 1
  let places := exponent.natAbs
  if significand = 0 then
    some (zero negative)
  else if 0 ≤ exponent then
    if places ≤ greatestPlaces then
      let product := whole.times (powerOfTen places)
      if product.isFinite then some product else none
    else
      none
  else if places ≤ greatestPlaces then
    some (whole.dividedBy (powerOfTen places))
  else if places ≤ 2 * greatestPlaces then
    some ((whole.dividedBy (powerOfTen greatestPlaces)).dividedBy
      (powerOfTen (places - greatestPlaces)))
  else
    some (zero negative)

end Binary64

end CqlGateway
