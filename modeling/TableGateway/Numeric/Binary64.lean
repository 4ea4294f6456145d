import TableGateway.Numeric.Power

/-!
# Finite doubles, exactly

A finite double is a sign and a magnitude counted in units of `2 ^ (-1074)`, the
smallest positive double. All of them are whole numbers in that unit, so
comparison is comparison of integers, and rounding is division of natural
numbers. `roundToGrid_onGrid` says that rounding lands on a double.
-/

namespace TableGateway

/-! ## The grid of magnitudes -/

/-- The exponent of the gap between neighbouring doubles at a magnitude: a
double has at most 53 significant bits. -/
def gridExponent (magnitude : Nat) : Nat :=
  Nat.log2 magnitude - 52

/-- The unit is `2 ^ (-unitExponent)`. -/
def unitExponent : Nat := 1074

/-- Finite doubles stay below two to this power, counted in units. -/
def overflowExponent : Nat := 1024 + unitExponent

/-- The number of units in one. -/
def unitsPerOne : Nat := twoPow unitExponent

/-- The first magnitude beyond the finite doubles. -/
def overflowMagnitude : Nat := twoPow overflowExponent

theorem overflowMagnitude_pos : 0 < overflowMagnitude :=
  twoPow_pos overflowExponent

/-- A finite double. The sign is kept for zero too. -/
structure Binary64 where
  negative : Bool
  magnitude : Nat
  onGrid : twoPow (gridExponent magnitude) ∣ magnitude
  isFinite : magnitude < overflowMagnitude
  deriving DecidableEq

/-- The quotient rounded to the nearest natural number, a half to the even
one. -/
def nearestEven (numerator denominator : Nat) : Nat :=
  let floor := numerator / denominator
  let rest := numerator % denominator
  if 2 * rest < denominator then floor
  else if denominator < 2 * rest then floor + 1
  else if floor % 2 = 0 then floor
  else floor + 1

/-- The quotient rounded to the nearest magnitude on the grid, a half to the
even multiple of the gap. -/
def roundToGrid (numerator denominator : Nat) : Nat :=
  let gap := twoPow (gridExponent (numerator / denominator))
  nearestEven numerator (denominator * gap) * gap

theorem nearestEven_le (numerator denominator : Nat) :
    nearestEven numerator denominator ≤ numerator / denominator + 1 := by
  unfold nearestEven
  dsimp only
  split
  · exact Nat.le_succ _
  · split
    · exact Nat.le_refl _
    · split
      · exact Nat.le_succ _
      · exact Nat.le_refl _

theorem lt_twoPow_gridExponent_add (magnitude : Nat) :
    magnitude < twoPow (gridExponent magnitude + 53) := by
  refine Nat.lt_of_lt_of_le (lt_twoPow_log2_add_one magnitude)
    (twoPow_le_twoPow ?_)
  unfold gridExponent
  omega

theorem gridExponent_le {magnitude exponent : Nat}
    (bound : magnitude < twoPow (exponent + 53)) :
    gridExponent magnitude ≤ exponent := by
  unfold gridExponent
  by_cases zero : magnitude = 0
  · subst zero
    simp
  · have logBound := log2_lt_of_lt_twoPow zero bound
    omega

/-- A rounded quotient is a multiple of the gap at its own magnitude. -/
theorem roundToGrid_onGrid (numerator denominator : Nat) :
    twoPow (gridExponent (roundToGrid numerator denominator)) ∣
      roundToGrid numerator denominator := by
  unfold roundToGrid
  dsimp only
  generalize quotientEq : numerator / denominator = quotient
  generalize exponentEq : gridExponent quotient = exponent
  have countBound :
      nearestEven numerator (denominator * twoPow exponent) ≤
        twoPow 53 := by
    refine Nat.le_trans (nearestEven_le _ _) ?_
    rw [← Nat.div_div_eq_div_mul, quotientEq]
    have quotientBound := lt_twoPow_gridExponent_add quotient
    rw [exponentEq, Nat.add_comm, twoPow_add] at quotientBound
    exact Nat.div_lt_of_lt_mul (Nat.mul_comm _ _ ▸ quotientBound)
  generalize nearestEven numerator (denominator * twoPow exponent) = count
    at countBound
  by_cases small : count < twoPow 53
  · have bound : count * twoPow exponent < twoPow (exponent + 53) := by
      rw [Nat.add_comm, twoPow_add]
      exact Nat.mul_lt_mul_of_pos_right small (twoPow_pos exponent)
    exact Nat.dvd_trans (twoPow_dvd_twoPow (gridExponent_le bound))
      (Nat.dvd_mul_left _ _)
  · have countEq : count = twoPow 53 :=
      Nat.le_antisymm countBound (Nat.le_of_not_lt small)
    subst countEq
    rw [← twoPow_add]
    apply twoPow_dvd_twoPow
    unfold gridExponent
    rw [log2_twoPow]
    omega

namespace Binary64

/-! ## Rounding -/

/-- The double nearest to a quotient of units, or nothing when the quotient
rounds beyond the finite doubles. -/
def ofQuotient? (negative : Bool) (numerator denominator : Nat) :
    Option Binary64 :=
  if inRange : roundToGrid numerator denominator < overflowMagnitude then
    some ⟨negative, roundToGrid numerator denominator,
      roundToGrid_onGrid numerator denominator, inRange⟩
  else none

/-- Zero of either sign. -/
def zero (negative : Bool) : Binary64 where
  negative := negative
  magnitude := 0
  onGrid := by simp
  isFinite := overflowMagnitude_pos

/-- Change the sign to the given one. -/
def withSign (negative : Bool) (number : Binary64) : Binary64 :=
  { number with negative := negative }

/-- The product with a positive double, rounded; nothing on overflow. -/
def mul? (left right : Binary64) : Option Binary64 :=
  ofQuotient? (left.negative != right.negative)
    (left.magnitude * right.magnitude) unitsPerOne

/-- The quotient of two doubles, rounded; nothing on overflow. -/
def div? (left right : Binary64) : Option Binary64 :=
  ofQuotient? (left.negative != right.negative)
    (left.magnitude * unitsPerOne) right.magnitude

/-! ## Comparison -/

/-- The signed number of units. Both zeros have none. -/
def units (number : Binary64) : Int :=
  if number.negative then -(number.magnitude : Int) else number.magnitude

/-- Comparison by value; the two zeros are equal. -/
def compare (left right : Binary64) : Ordering :=
  Ord.compare left.units right.units

/-- Equality of values, under which the two zeros agree. -/
def same (left right : Binary64) : Bool :=
  left.units == right.units

end Binary64

end TableGateway
