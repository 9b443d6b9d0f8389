import CqlGateway.Numeral.Binary64

/-! The shortest decimal text of a binary floating point number: the fewest digits that read back as
the number, and of those the nearest. It is positional while the point stands within sixteen digits.
-/

namespace CqlGateway.Binary64

/-- Twice the ratios that bound what rounds to the number, and the number itself, over one
denominator.
-/
structure RoundingInterval where
  low : Nat
  value : Nat
  high : Nat
  denominator : Nat
  closed : Bool

/-- What rounds to the number. Below a power of two the distance to the next number is half of that
above it.
-/
def roundingInterval (number : Binary64) : RoundingInterval :=
  let (up, down) := powerRatio 2 (number.exponent - 2)
  let narrow := number.mantissa = Nat.pow 2 52 ∧ leastExponent < number.exponent
  {
    low := (4 * number.mantissa - (if narrow then 1 else 2)) * up
    value := 4 * number.mantissa * up
    high := (4 * number.mantissa + 2) * up
    denominator := down
    closed := number.mantissa % 2 = 0
  }

/-- True of a ratio that rounds to the number. -/
def RoundingInterval.holds (interval : RoundingInterval) (numerator denominator : Nat) : Bool :=
  let low := interval.low * denominator
  let high := interval.high * denominator
  let middle := numerator * interval.denominator
  if interval.closed then
    low ≤ middle && middle ≤ high
  else
    low < middle && middle < high

/-- The exponent of the leading decimal digit of a positive ratio, which lies below `10 ^ 400` and
not below `10 ^ -400`.
-/
def leadingExponent (numerator denominator : Nat) : Int :=
  if denominator ≤ numerator then
    (Nat.toDigits 10 (numerator / denominator)).length - 1
  else
    let places := (List.range 401).find? fun places => denominator ≤ numerator * Nat.pow 10 places
    Int.neg (places.getD 400)

/-- The grid point with the given last place that lies nearest among those that round to the number.
-/
def gridPoint? (interval : RoundingInterval) (place : Int) : Option Nat :=
  let (up, down) := powerRatio 10 place
  let below := interval.value * down / (interval.denominator * up)
  let holdsBelow := interval.holds (below * up) down
  let holdsAbove := interval.holds ((below + 1) * up) down
  let twice := 2 * (interval.value * down)
  let middle := (2 * below + 1) * (interval.denominator * up)
  if holdsBelow && (!holdsAbove || twice < middle || (twice = middle && below % 2 = 0)) then
    some below
  else if holdsAbove then
    some (below + 1)
  else
    none

/-- Removes zeros at the end, counting them into the place of the last digit. -/
def stripZeros : (fuel : Nat) → Nat → Int → Nat × Int
  | 0, digits, place => (digits, place)
  | fuel + 1, digits, place =>
      if digits ≠ 0 ∧ digits % 10 = 0 then
        stripZeros fuel (digits / 10) (place + 1)
      else
        (digits, place)

/-- The fewest digits that read back, with the place of the last one. Seventeen digits always do. -/
def shortestDigits (number : Binary64) : Nat × Int :=
  let interval := number.roundingInterval
  let leading := leadingExponent interval.value interval.denominator
  let found := (List.range 17).findSome? fun (more : Nat) =>
    (gridPoint? interval (leading - more)).map fun digits => (digits, leading - more)
  match found with
  | some (digits, place) => stripZeros 20 digits place
  | none => (interval.value / interval.denominator, 0)

/-- Digits with a point in the given place, counted from the end of the digits. -/
def positional (digits : List Char) (place : Int) : List Char :=
  if 0 ≤ place then
    digits ++ List.replicate place.toNat '0' ++ ['.', '0']
  else
    let decimals := (-place).toNat
    if decimals < digits.length then
      digits.take (digits.length - decimals) ++ ['.'] ++ digits.drop (digits.length - decimals)
    else
      ['0', '.'] ++ List.replicate (decimals - digits.length) '0' ++ digits

/-- Digits with a point behind the first one, and the power of ten that puts it right, with its
sign.
-/
def scientific (digits : List Char) (place : Int) : List Char :=
  let exponent := place + digits.length - 1
  let sign := if 0 ≤ exponent then ['+'] else ['-']
  let fraction :=
    match digits.drop 1 with
    | [] => []
    | rest => '.' :: rest
  digits.take 1 ++ fraction ++ ['e'] ++ sign ++ Nat.toDigits 10 exponent.natAbs

/-- The text of a number. A whole number keeps one zero behind the point. -/
def text (number : Binary64) : String :=
  let sign := if number.negative then ['-'] else []
  if number.mantissa = 0 then
    String.ofList (sign ++ ['0', '.', '0'])
  else
    let (value, place) := number.shortestDigits
    let digits := Nat.toDigits 10 value
    let point := place + digits.length
    let body := if -5 < point ∧ point ≤ 16 then positional digits place else scientific digits place
    String.ofList (sign ++ body)

end CqlGateway.Binary64
