import TableGateway.Numeric.Shortest
import TableGateway.Numeric.Literal

/-!
# JSON numbers

A number is a whole number or a double, and the two kinds never agree, not even
on `1` and `1.0`.
-/

namespace TableGateway

/-- A JSON number: whole, or a finite double. -/
inductive Number where
  | integer (value : Int)
  | double (value : Binary64)
  deriving DecidableEq

namespace Number

def text : Number → List Char
  | integer value => integerText value
  | double value => value.text

/-- The double nearest to a number. -/
def reading : Number → Reading
  | integer value => Reading.ofInt value
  | double value => .finite value

/-- Equality within one kind of number. -/
def same : Number → Number → Bool
  | integer left, integer right => left == right
  | double left, double right => left.same right
  | _, _ => false

/-- A whole number of 64 bits with a sign. -/
def signedWord? : Number → Option Int
  | integer value =>
      if -9223372036854775808 ≤ value ∧ value ≤ 9223372036854775807 then
        some value
      else none
  | double _ => none

end Number

end TableGateway
