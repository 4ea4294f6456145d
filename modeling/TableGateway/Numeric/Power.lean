/-!
# Powers of two and ten

The scales of binary and decimal numbers. Both are plain powers of natural
numbers; the laws of `twoPow` are those that rounding needs.
-/

namespace TableGateway

def twoPow (exponent : Nat) : Nat :=
  Nat.pow 2 exponent

def tenPow (exponent : Nat) : Nat :=
  Nat.pow 10 exponent

theorem twoPow_pos (exponent : Nat) : 0 < twoPow exponent :=
  Nat.pow_pos (by decide)

theorem twoPow_add (left right : Nat) :
    twoPow (left + right) = twoPow left * twoPow right :=
  Nat.pow_add 2 left right

theorem twoPow_le_twoPow {left right : Nat} (order : left ≤ right) :
    twoPow left ≤ twoPow right :=
  Nat.pow_le_pow_right (by decide) order

theorem twoPow_dvd_twoPow {left right : Nat} (order : left ≤ right) :
    twoPow left ∣ twoPow right :=
  Nat.pow_dvd_pow 2 order

theorem log2_twoPow (exponent : Nat) :
    Nat.log2 (twoPow exponent) = exponent :=
  Nat.log2_two_pow

theorem lt_twoPow_log2_add_one (number : Nat) :
    number < twoPow (Nat.log2 number + 1) :=
  Nat.lt_log2_self

theorem log2_lt_of_lt_twoPow {number exponent : Nat} (positive : number ≠ 0)
    (bound : number < twoPow exponent) :
    Nat.log2 number < exponent :=
  (Nat.log2_lt positive).mpr bound

end TableGateway
