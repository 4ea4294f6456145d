import TableGateway.Json.Number

/-!
# Tokens of JSON text

Numbers and strings as they are written. A number is kept as its digits until a
value is asked for. A string may hold half of a surrogate pair, and then it has
no value.
-/

namespace TableGateway

/-! ## Numbers -/

/-- A number as written: digits before the point, digits after it, and the
digits of an exponent with its sign. -/
structure NumberToken where
  negative : Bool
  whole : List Char
  fraction : Option (List Char)
  exponent : Option (Bool × List Char)

/-- Read digits into a significand as long as it fits 64 bits; the digits that
no longer fit are left over. -/
def absorbDigits (significand : Nat) : List Char → Nat × List Char
  | [] => (significand, [])
  | digit :: rest =>
      let next := significand * 10 + (digit.toNat - '0'.toNat)
      if next ≤ wordMax then absorbDigits next rest
      else (significand, digit :: rest)

def powerOfTen? (exponent : Nat) : Option Binary64 :=
  Binary64.ofQuotient? false (tenPow exponent * unitsPerOne) 1

/-- The double of a significand and a power of ten, by one rounded operation
on two doubles; exponents below `-308` take a division by `10 ^ 308` first.
There is none when the value is beyond the finite doubles. -/
def scaledDouble? (significand : Nat) (exponent : Int) :
    Option Binary64 := do
  let number ← Binary64.ofQuotient? false (significand * unitsPerOne) 1
  if exponent < -616 then
    return Binary64.zero false
  else if exponent < -308 then
    let step ← number.div? (← powerOfTen? 308)
    step.div? (← powerOfTen? (-exponent - 308).toNat)
  else if exponent < 0 then
    number.div? (← powerOfTen? (-exponent).toNat)
  else if exponent ≤ 308 then
    number.mul? (← powerOfTen? exponent.toNat)
  else if significand = 0 then
    return number
  else none

namespace NumberToken

/-- The exponent that is written, zero if there is none. -/
def writtenExponent (token : NumberToken) : Int :=
  match token.exponent with
  | none => 0
  | some (true, digits) => -(digitsValue digits : Int)
  | some (false, digits) => digitsValue digits

/-- The double that a token denotes, if it is finite. -/
def double? (token : NumberToken) : Option Binary64 :=
  let (whole, dropped) := absorbDigits 0 token.whole
  let fraction := token.fraction.getD []
  let (significand, unread) := absorbDigits whole fraction
  let shift : Int := (dropped.length : Int) + unread.length - fraction.length
  (scaledDouble? significand (shift + token.writtenExponent)).map
    (Binary64.withSign token.negative)

/-- The number that a token denotes. A token of digits alone is a whole number
if it fits 64 bits with or without a sign; negative zero is a double. -/
def value? (token : NumberToken) : Option Number :=
  let digits := digitsValue token.whole
  if token.fraction.isNone && token.exponent.isNone then
    if !token.negative && digits ≤ wordMax then
      some (.integer digits)
    else if token.negative && 0 < digits && digits ≤ 9223372036854775808 then
      some (.integer (-digits))
    else token.double?.map .double
  else token.double?.map .double

end NumberToken

/-! ## Strings -/

/-- A part of a string as written: a character, or an escaped code unit. -/
inductive StringPart where
  | letter (value : Char)
  | unit (value : Nat)

/-- A code unit that begins a surrogate pair. -/
def isHighSurrogate (unit : Nat) : Bool :=
  0xD800 ≤ unit && unit ≤ 0xDBFF

/-- A code unit that ends a surrogate pair. -/
def isLowSurrogate (unit : Nat) : Bool :=
  0xDC00 ≤ unit && unit ≤ 0xDFFF

/-- The code point of a surrogate pair. -/
def surrogatePair (high low : Nat) : Nat :=
  0x10000 + (high - 0xD800) * 0x400 + (low - 0xDC00)

/-- The characters of a string, if no surrogate stands alone. -/
def joinParts? : List StringPart → Option (List Char)
  | [] => some []
  | .letter value :: rest => (joinParts? rest).map (value :: ·)
  | .unit high :: .unit low :: rest =>
      if isHighSurrogate high && isLowSurrogate low then
        (joinParts? rest).map (Char.ofNat (surrogatePair high low) :: ·)
      else if isHighSurrogate high || isLowSurrogate high then none
      else (joinParts? (.unit low :: rest)).map (Char.ofNat high :: ·)
  | .unit value :: rest =>
      if isHighSurrogate value || isLowSurrogate value then none
      else (joinParts? rest).map (Char.ofNat value :: ·)

end TableGateway
