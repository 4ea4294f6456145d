import TableGateway.Numeric.Binary64

/-!
# The shortest decimal text of a double

The digits of a double are the fewest that read back as the same double, and
among those the nearest to it. They are found on the coarsest decimal grid that
has a point inside the interval of numbers rounding to the double. Positional
text is used from `0.00001` up to `10 ^ 16`, an exponent outside that range.
-/

namespace TableGateway

/-! ## The rounding interval -/

/-- The numbers that round to a magnitude, in quarters of a unit. The ends
belong to the interval when `closed` holds. -/
structure RoundingInterval where
  low : Nat
  high : Nat
  closed : Bool

/-- Half a gap on either side; below a power of two the gap is half as wide. -/
def RoundingInterval.around (magnitude : Nat) : RoundingInterval :=
  let exponent := gridExponent magnitude
  let gap := twoPow exponent
  let lowerHalf :=
    if 0 < exponent ∧ magnitude = twoPow (52 + exponent) then gap
    else 2 * gap
  ⟨4 * magnitude - lowerHalf, 4 * magnitude + 2 * gap,
    magnitude / gap % 2 = 0⟩

/-- Whether the quotient, in quarters of a unit, lies in the interval. -/
def RoundingInterval.covers
    (interval : RoundingInterval) (numerator denominator : Nat) : Bool :=
  if interval.closed then
    interval.low * denominator ≤ numerator &&
      numerator ≤ interval.high * denominator
  else
    interval.low * denominator < numerator &&
      numerator < interval.high * denominator

/-! ## Decimal grids -/

/-- A positive decimal number: `digits * 10 ^ exponent`. -/
structure Decimal where
  digits : Nat
  exponent : Int
  deriving DecidableEq

/-- The point of the grid `10 ^ exponent` that reads back as the magnitude, if
there is one: of two neighbours the nearer, of a tie the even one. -/
def Decimal.onGrid? (magnitude : Nat) (exponent : Int) : Option Decimal :=
  let up := tenPow exponent.toNat * unitsPerOne
  let down := tenPow (-exponent).toNat
  let interval := RoundingInterval.around magnitude
  let covered (count : Nat) : Bool :=
    0 < count && interval.covers (4 * count * up) down
  let below := magnitude * down / up
  let twice := 2 * magnitude * down
  let middle := (2 * below + 1) * up
  let belowNearer :=
    twice < middle || (twice == middle && below % 2 == 0)
  if covered below && (belowNearer || !covered (below + 1)) then
    some ⟨below, exponent⟩
  else if covered (below + 1) then some ⟨below + 1, exponent⟩
  else none

/-- An exponent whose power of ten exceeds the magnitude. -/
def Decimal.exponentAbove (magnitude : Nat) : Int :=
  ((Nat.log2 magnitude : Int) - 1073) * 30103 / 100000 + 1

/-- The shortest decimal that reads back as a positive magnitude. Seventeen
digits always suffice, so that the search ends within 22 grids. -/
def Decimal.shortest (magnitude : Nat) : Decimal :=
  let start := Decimal.exponentAbove magnitude
  ((List.range 22).findSome? fun (step : Nat) =>
    Decimal.onGrid? magnitude (start - step)).getD ⟨0, 0⟩

/-! ## Text -/

/-- The digits of a natural number in base ten. -/
def decimalDigits (number : Nat) : List Char :=
  Nat.toDigits 10 number

/-- An integer in base ten, with a minus sign if it is negative. -/
def integerText (number : Int) : List Char :=
  if number < 0 then '-' :: decimalDigits number.natAbs
  else decimalDigits number.natAbs

/-- The decimal point is written among the digits when it stands at most four
places before the first digit and at most sixteen behind it. -/
def Decimal.isPositional (point : Int) : Bool :=
  -5 < point && point ≤ 16

/-- The text of a positive decimal, always with a fraction or an exponent. -/
def Decimal.text (decimal : Decimal) : List Char :=
  let digits := decimalDigits decimal.digits
  let point := (digits.length : Int) + decimal.exponent
  if Decimal.isPositional point then
    if 0 ≤ decimal.exponent then
      digits ++ List.replicate decimal.exponent.toNat '0' ++ ['.', '0']
    else if 0 < point then
      digits.take point.toNat ++ '.' :: digits.drop point.toNat
    else
      '0' :: '.' :: List.replicate (-point).toNat '0' ++ digits
  else
    let mantissa :=
      match digits with
      | first :: second :: rest => first :: '.' :: second :: rest
      | short => short
    let sign := if point - 1 < 0 then '-' else '+'
    mantissa ++ 'e' :: sign :: decimalDigits (point - 1).natAbs

/-- The text of a double: shortest digits, the sign of zero kept. -/
def Binary64.text (number : Binary64) : List Char :=
  let magnitudeText :=
    if number.magnitude = 0 then ['0', '.', '0']
    else (Decimal.shortest number.magnitude).text
  if number.negative then '-' :: magnitudeText else magnitudeText

end TableGateway
