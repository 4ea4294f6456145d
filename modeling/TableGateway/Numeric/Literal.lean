import TableGateway.Numeric.Binary64

/-!
# Reading numbers from text

Three readers: whole numbers of 64 bits without a sign, truth values, and
doubles. A double's text is rounded correctly from its exact decimal value; it
may also name an infinity or not-a-number, and a value beyond the finite
doubles reads as an infinity.
-/

namespace TableGateway

/-! ## Digits -/

/-- The number that a list of digits denotes in base ten. -/
def digitsValue (digits : List Char) : Nat :=
  Nat.ofDigitChars 10 digits 0

/-- The leading digits of a text, and the rest. -/
def spanDigits (text : List Char) : List Char × List Char :=
  (text.takeWhile Char.isDigit, text.dropWhile Char.isDigit)

/-- The number denoted by a text of one or more digits and nothing else. -/
def readDigits? (text : List Char) : Option Nat :=
  if !text.isEmpty && text.all Char.isDigit then some (digitsValue text)
  else none

/-- The largest whole number of 64 bits. -/
def wordMax : Nat := 18446744073709551615

/-- A whole number of 64 bits: digits after an optional plus sign. -/
def readWord? (text : List Char) : Option Nat :=
  let digits :=
    match text with
    | '+' :: rest => rest
    | other => other
  (readDigits? digits).filter (· ≤ wordMax)

/-- Exactly `true` or `false`. -/
def readBool? (text : String) : Option Bool :=
  if text = "true" then some true
  else if text = "false" then some false
  else none

/-! ## What a number's text can denote -/

/-- The value of a numeric text: a finite double, an infinity, or no number
at all. -/
inductive Reading where
  | finite (number : Binary64)
  | infinite (negative : Bool)
  | notANumber
  deriving DecidableEq

namespace Reading

/-- The order of readings; what is not a number has no place in it. -/
def compare? : Reading → Reading → Option Ordering
  | notANumber, _ => none
  | _, notANumber => none
  | finite left, finite right => some (left.compare right)
  | infinite left, infinite right => some (compare (!left) (!right))
  | infinite negative, finite _ => some (if negative then .lt else .gt)
  | finite _, infinite negative => some (if negative then .gt else .lt)

/-- The reading nearest to a quotient of units. -/
def ofQuotient
    (negative : Bool) (numerator denominator : Nat) : Reading :=
  match Binary64.ofQuotient? negative numerator denominator with
  | some number => finite number
  | none => infinite negative

/-- The double nearest to an integer. -/
def ofInt (number : Int) : Reading :=
  ofQuotient (number < 0) (number.natAbs * unitsPerOne) 1

/-- The double nearest to `digits * 10 ^ exponent`, for a text of `length`
digits. Exponents far outside the range of doubles are settled without
computing the power. -/
def ofDecimal
    (negative : Bool) (digits length : Nat) (exponent : Int) : Reading :=
  if digits = 0 then finite (Binary64.zero negative)
  else if 400 < exponent then infinite negative
  else if exponent + length < -400 then finite (Binary64.zero negative)
  else
    ofQuotient negative (digits * tenPow exponent.toNat * unitsPerOne)
      (tenPow (-exponent).toNat)

end Reading

/-! ## Reading a double -/

/-- Split an optional sign from a text. -/
def spanSign : List Char → Bool × List Char
  | '-' :: rest => (true, rest)
  | '+' :: rest => (false, rest)
  | other => (false, other)

/-- The exponent part that ends a number: nothing, or `e` with one or more
digits after an optional sign. -/
def readExponent? : List Char → Option Int
  | [] => some 0
  | mark :: rest =>
      if mark = 'e' ∨ mark = 'E' then
        let (negative, digits) := spanSign rest
        (readDigits? digits).map fun size =>
          if negative then -(size : Int) else size
      else none

/-- The digits after an optional decimal point, and the rest. -/
def spanFraction : List Char → List Char × List Char
  | '.' :: rest => spanDigits rest
  | other => ([], other)

/-- An unsigned number: digits on at least one side of an optional point, then
an optional exponent. -/
def readUnsigned? (negative : Bool) (text : List Char) : Option Reading :=
  let (whole, afterWhole) := spanDigits text
  let (fraction, afterFraction) := spanFraction afterWhole
  let digits := whole ++ fraction
  if digits.isEmpty then none
  else
    (readExponent? afterFraction).map fun exponent =>
      Reading.ofDecimal negative (digitsValue digits) digits.length
        (exponent - fraction.length)

/-- The names of values that are not finite, in any ASCII case. -/
def readNamed? (negative : Bool) (text : List Char) : Option Reading :=
  let name := String.ofList (text.map Char.toLower)
  if name = "inf" ∨ name = "infinity" then some (.infinite negative)
  else if name = "nan" then some .notANumber
  else none

/-- The value of a text that reads as a double, after an optional sign. -/
def readDouble? (text : List Char) : Option Reading :=
  let (negative, body) := spanSign text
  (readUnsigned? negative body).or (readNamed? negative body)

end TableGateway
