import Mathlib.Tactic.ByContra
import TableGateway.Numeric.Shortest
import TableGateway.Proofs.Numeric.Integers

/-!
# What rounds to a double

A quotient that lies in the rounding interval of a double rounds to that double
(`roundToGrid_of_covers`). It matters only where the quotient lies, and not how
it is written as a fraction.
-/

namespace TableGateway

/-! ## Rounding to a whole number -/

/-- A quotient at most a half away from a whole number rounds to it, if the
number is even or the distance is less. -/
theorem nearestEven_eq {numerator denominator whole : Nat}
    (above : 2 * (whole * denominator) ≤ 2 * numerator + denominator)
    (below : 2 * numerator ≤ 2 * (whole * denominator) + denominator)
    (decided : whole % 2 = 0 ∨
      2 * (whole * denominator) < 2 * numerator + denominator ∧
        2 * numerator < 2 * (whole * denominator) + denominator)
    (positive : 0 < denominator) :
    nearestEven numerator denominator = whole := by
  have splitEq := Nat.div_add_mod' numerator denominator
  have restBound := Nat.mod_lt numerator positive
  unfold nearestEven
  dsimp only
  generalize numerator / denominator = floor at splitEq ⊢
  generalize numerator % denominator = rest at splitEq restBound ⊢
  have floorCases : floor = whole ∨ floor + 1 = whole := by
    by_contra other
    rw [not_or] at other
    rcases Nat.lt_or_gt_of_ne other.1 with less | greater
    · have gap : (floor + 2) * denominator ≤ whole * denominator :=
        Nat.mul_le_mul_right _ (by omega)
      rw [Nat.add_mul] at gap
      omega
    · have gap : (whole + 1) * denominator ≤ floor * denominator :=
        Nat.mul_le_mul_right _ greater
      rw [Nat.succ_mul] at gap
      omega
  rcases floorCases with rfl | rfl
  · have restHalf : 2 * rest ≤ denominator := by omega
    rcases Nat.lt_or_eq_of_le restHalf with less | tie
    · rw [if_pos less]
    · have even : floor % 2 = 0 := by omega
      rw [if_neg (by omega), if_neg (by omega), if_pos even]
  · have nextEq : (floor + 1) * denominator =
        floor * denominator + denominator := Nat.succ_mul floor denominator
    rw [nextEq] at above below decided
    have restHalf : denominator ≤ 2 * rest := by omega
    rcases Nat.lt_or_eq_of_le restHalf with less | tie
    · rw [if_neg (by omega), if_pos less]
    · have odd : ¬floor % 2 = 0 := by omega
      rw [if_neg (by omega), if_neg (by omega), if_neg odd]

/-! ## Intervals -/

section SameFraction

variable {numerator denominator otherNumerator otherDenominator : Nat}

theorem mul_le_iff_of_same_fraction (positive : 0 < denominator)
    (otherPositive : 0 < otherDenominator)
    (same : numerator * otherDenominator = otherNumerator * denominator)
    (bound : Nat) :
    bound * denominator ≤ numerator ↔
      bound * otherDenominator ≤ otherNumerator := by
  rw [← Nat.mul_le_mul_right_iff otherPositive, same, Nat.mul_right_comm,
    Nat.mul_le_mul_right_iff positive]

theorem le_mul_iff_of_same_fraction (positive : 0 < denominator)
    (otherPositive : 0 < otherDenominator)
    (same : numerator * otherDenominator = otherNumerator * denominator)
    (bound : Nat) :
    numerator ≤ bound * denominator ↔
      otherNumerator ≤ bound * otherDenominator := by
  rw [← Nat.mul_le_mul_right_iff otherPositive, same,
    Nat.mul_right_comm bound, Nat.mul_le_mul_right_iff positive]

end SameFraction

namespace RoundingInterval

variable {interval : RoundingInterval}
  {numerator denominator otherNumerator otherDenominator : Nat}

/-- Whether an interval covers a fraction does not hang on how it is
written. -/
theorem covers_congr (positive : 0 < denominator)
    (otherPositive : 0 < otherDenominator)
    (same : numerator * otherDenominator = otherNumerator * denominator) :
    interval.covers numerator denominator =
      interval.covers otherNumerator otherDenominator := by
  have lowIff :=
    mul_le_iff_of_same_fraction positive otherPositive same
  have highIff :=
    le_mul_iff_of_same_fraction positive otherPositive same
  unfold covers
  rw [Bool.eq_iff_iff]
  cases interval.closed with
  | true =>
      simp only [if_true, Bool.and_eq_true, decide_eq_true_eq]
      rw [lowIff, highIff]
  | false =>
      simp only [Bool.false_eq_true, if_false, Bool.and_eq_true,
        decide_eq_true_eq, ← Nat.not_le]
      rw [lowIff, highIff]

/-- A covered fraction lies between the ends, and on an end only if the
interval is closed. -/
theorem bounds_of_covers (covered : interval.covers numerator denominator) :
    interval.low * denominator ≤ numerator ∧
      numerator ≤ interval.high * denominator ∧
      (interval.closed = true ∨
        interval.low * denominator < numerator ∧
          numerator < interval.high * denominator) := by
  unfold covers at covered
  cases closed : interval.closed with
  | true =>
      rw [closed] at covered
      simp only [if_true, Bool.and_eq_true, decide_eq_true_eq] at covered
      exact ⟨covered.1, covered.2, Or.inl rfl⟩
  | false =>
      rw [closed] at covered
      simp only [Bool.false_eq_true, if_false, Bool.and_eq_true,
        decide_eq_true_eq] at covered
      exact ⟨Nat.le_of_lt covered.1, Nat.le_of_lt covered.2, Or.inr covered⟩

theorem covers_of_between (above : interval.low * denominator < numerator)
    (below : numerator < interval.high * denominator) :
    interval.covers numerator denominator = true := by
  unfold covers
  cases interval.closed with
  | true => simp [Nat.le_of_lt above, Nat.le_of_lt below]
  | false => simp [above, below]

end RoundingInterval

/-! ## Rounding to the grid -/

section Grid

variable {magnitude numerator denominator : Nat}

theorem div_gap_mul_gap (onGrid : twoPow (gridExponent magnitude) ∣ magnitude) :
    magnitude / twoPow (gridExponent magnitude) *
        twoPow (gridExponent magnitude) =
      magnitude :=
  Nat.div_mul_cancel onGrid

/-- The next magnitude on the grid is at most the next power of two. -/
theorem add_gap_le (onGrid : twoPow (gridExponent magnitude) ∣ magnitude) :
    magnitude + twoPow (gridExponent magnitude) ≤
      twoPow (gridExponent magnitude + 53) := by
  have bound := lt_twoPow_gridExponent_add magnitude
  obtain ⟨count, countEq⟩ := onGrid
  generalize gridExponent magnitude = exponent at bound countEq ⊢
  rw [twoPow_add] at bound ⊢
  rw [countEq] at bound ⊢
  have countBound : count < twoPow 53 := Nat.lt_of_mul_lt_mul_left bound
  rw [← Nat.mul_succ]
  exact Nat.mul_le_mul_left _ countBound

/-- Where the gap is more than one, a magnitude has 53 bits above it. -/
theorem twoPow_gridExponent_add_le (wide : 0 < gridExponent magnitude) :
    twoPow (gridExponent magnitude + 52) ≤ magnitude := by
  have exponentEq : gridExponent magnitude + 52 = Nat.log2 magnitude := by
    unfold gridExponent at wide ⊢
    omega
  have positive : magnitude ≠ 0 := by
    rintro rfl
    unfold gridExponent at wide
    simp at wide
  rw [exponentEq]
  exact Nat.log2_self_le positive

theorem low_around_of_boundary (wide : 0 < gridExponent magnitude)
    (boundary : magnitude = twoPow (52 + gridExponent magnitude)) :
    (RoundingInterval.around magnitude).low =
      4 * magnitude - twoPow (gridExponent magnitude) := by
  unfold RoundingInterval.around
  dsimp only
  rw [if_pos ⟨wide, boundary⟩]

theorem low_around_of_not_boundary
    (inside : ¬(0 < gridExponent magnitude ∧
      magnitude = twoPow (52 + gridExponent magnitude))) :
    (RoundingInterval.around magnitude).low =
      4 * magnitude - 2 * twoPow (gridExponent magnitude) := by
  unfold RoundingInterval.around
  dsimp only
  rw [if_neg inside]

theorem high_around (magnitude : Nat) :
    (RoundingInterval.around magnitude).high =
      4 * magnitude + 2 * twoPow (gridExponent magnitude) := rfl

theorem gridExponent_le_of_le_high {floor : Nat}
    (onGrid : twoPow (gridExponent magnitude) ∣ magnitude)
    (upper : 4 * floor ≤ (RoundingInterval.around magnitude).high) :
    gridExponent floor ≤ gridExponent magnitude := by
  rw [high_around] at upper
  have gapPos := twoPow_pos (gridExponent magnitude)
  have gapBound := add_gap_le onGrid
  apply gridExponent_le
  omega

theorem twoPow_add_gridExponent (exponent magnitude : Nat) :
    twoPow (exponent + gridExponent magnitude) =
      twoPow exponent * twoPow (gridExponent magnitude) :=
  twoPow_add exponent _

/-- Above a power of two, the magnitudes on the grid are a gap away from it. -/
theorem twoPow_add_gap_le
    (onGrid : twoPow (gridExponent magnitude) ∣ magnitude)
    (above : twoPow (52 + gridExponent magnitude) < magnitude) :
    twoPow (52 + gridExponent magnitude) + twoPow (gridExponent magnitude) ≤
      magnitude := by
  obtain ⟨count, countEq⟩ := onGrid
  rw [twoPow_add_gridExponent] at above ⊢
  generalize twoPow (gridExponent magnitude) = gap at countEq above ⊢
  rw [countEq, Nat.mul_comm gap] at above ⊢
  have countLarge : twoPow 52 < count := Nat.lt_of_mul_lt_mul_right above
  rw [← Nat.succ_mul]
  exact Nat.mul_le_mul_right gap countLarge

/-- A number below the power of two at a magnitude reaches the interval of the
magnitude only from the power itself, and then from less than half of it. -/
theorem boundary_of_low_lt {floor : Nat}
    (onGrid : twoPow (gridExponent magnitude) ∣ magnitude)
    (wide : 0 < gridExponent magnitude)
    (below : floor < twoPow (52 + gridExponent magnitude))
    (lower : (RoundingInterval.around magnitude).low < 4 * (floor + 1)) :
    magnitude = twoPow (52 + gridExponent magnitude) ∧
      twoPow (51 + gridExponent magnitude) ≤ floor := by
  have gapPos := twoPow_pos (gridExponent magnitude)
  have boundary : magnitude = twoPow (52 + gridExponent magnitude) := by
    -- Away from the power the interval ends half a gap below.
    by_contra other
    have least := twoPow_gridExponent_add_le wide
    rw [Nat.add_comm] at least
    have larger := twoPow_add_gap_le onGrid
      (Nat.lt_of_le_of_ne least (Ne.symm other))
    rw [low_around_of_not_boundary fun both => other both.2] at lower
    omega
  refine ⟨boundary, ?_⟩
  rw [low_around_of_boundary wide boundary] at lower
  have wholeEq := twoPow_add_gridExponent 52 magnitude
  have halfEq := twoPow_add_gridExponent 51 magnitude
  have wholeValue : twoPow 52 = 4503599627370496 := rfl
  have halfValue : twoPow 51 = 2251799813685248 := rfl
  rw [wholeValue] at wholeEq
  rw [halfValue] at halfEq
  omega

/-- A covered quotient has the gap of the magnitude, or it lies below a power
of two and has half the gap. -/
theorem gridExponent_div_of_covers
    (onGrid : twoPow (gridExponent magnitude) ∣ magnitude)
    (positive : 0 < denominator)
    (covered :
      (RoundingInterval.around magnitude).covers (4 * numerator) denominator) :
    gridExponent (numerator / denominator) = gridExponent magnitude ∨
      gridExponent magnitude = gridExponent (numerator / denominator) + 1 ∧
        magnitude = twoPow (52 + gridExponent magnitude) ∧
        numerator / denominator < magnitude := by
  obtain ⟨lower, upper, _⟩ := RoundingInterval.bounds_of_covers covered
  have floorLe := Nat.mul_le_mul_left 4
    (Nat.div_mul_le_self numerator denominator)
  have floorLt := Nat.mul_lt_mul_of_pos_left
    (Nat.lt_mul_div_succ numerator positive) (by decide : 0 < 4)
  generalize numerator / denominator = floor at floorLe floorLt ⊢
  rw [← Nat.mul_assoc] at floorLe
  rw [Nat.mul_comm denominator, ← Nat.mul_assoc] at floorLt
  have highLe := Nat.le_of_mul_le_mul_right
    (Nat.le_trans floorLe upper) positive
  have lowLt := Nat.lt_of_mul_lt_mul_right
    (Nat.lt_of_le_of_lt lower floorLt)
  have exponentLe := gridExponent_le_of_le_high onGrid highLe
  by_cases sameExponent : gridExponent floor = gridExponent magnitude
  · exact Or.inl sameExponent
  · right
    have wide : 0 < gridExponent magnitude := by omega
    have below : floor < twoPow (52 + gridExponent magnitude) := by
      refine Nat.lt_of_lt_of_le (lt_twoPow_gridExponent_add floor)
        (twoPow_le_twoPow ?_)
      omega
    obtain ⟨boundary, floorLarge⟩ :=
      boundary_of_low_lt onGrid wide below lowLt
    have floorPositive : floor ≠ 0 := by
      have powerPos := twoPow_pos (51 + gridExponent magnitude)
      omega
    have logLarge := le_log2_of_twoPow_le floorPositive floorLarge
    have exponentEq : gridExponent floor = Nat.log2 floor - 52 := rfl
    refine ⟨by omega, boundary, ?_⟩
    rw [boundary]
    exact below

/-- The interval begins at most half a gap below the magnitude. -/
theorem le_low_around_add (magnitude : Nat) :
    4 * magnitude ≤ (RoundingInterval.around magnitude).low +
      2 * twoPow (gridExponent magnitude) := by
  by_cases boundary : 0 < gridExponent magnitude ∧
      magnitude = twoPow (52 + gridExponent magnitude)
  · rw [low_around_of_boundary boundary.1 boundary.2]
    omega
  · rw [low_around_of_not_boundary boundary]
    omega

/-- The interval begins at least a quarter of the gap below the magnitude. -/
theorem low_around_add_le (positive : 0 < magnitude)
    (onGrid : twoPow (gridExponent magnitude) ∣ magnitude) :
    (RoundingInterval.around magnitude).low +
        twoPow (gridExponent magnitude) ≤
      4 * magnitude := by
  have gapLe := Nat.le_of_dvd positive onGrid
  by_cases boundary : 0 < gridExponent magnitude ∧
      magnitude = twoPow (52 + gridExponent magnitude)
  · rw [low_around_of_boundary boundary.1 boundary.2]
    omega
  · rw [low_around_of_not_boundary boundary]
    omega

/-- Whatever lies in the rounding interval of a double rounds to it. -/
theorem roundToGrid_of_covers
    (onGrid : twoPow (gridExponent magnitude) ∣ magnitude)
    (positive : 0 < denominator)
    (covered :
      (RoundingInterval.around magnitude).covers (4 * numerator) denominator) :
    roundToGrid numerator denominator = magnitude := by
  obtain ⟨lower, upper, ends⟩ := RoundingInterval.bounds_of_covers covered
  unfold roundToGrid
  dsimp only
  rcases gridExponent_div_of_covers onGrid positive covered with
    sameGap | ⟨halfGap, boundary, floorLess⟩
  · rw [sameGap]
    have countEq := div_gap_mul_gap onGrid
    have lowBound := Nat.mul_le_mul_right denominator
      (le_low_around_add magnitude)
    have closedEq : (RoundingInterval.around magnitude).closed =
        decide (magnitude / twoPow (gridExponent magnitude) % 2 = 0) := rfl
    have gapPos := twoPow_pos (gridExponent magnitude)
    rw [high_around] at upper ends
    rw [closedEq, decide_eq_true_eq] at ends
    generalize (RoundingInterval.around magnitude).low = low
      at lower ends lowBound
    generalize magnitude / twoPow (gridExponent magnitude) = count
      at countEq ends ⊢
    generalize twoPow (gridExponent magnitude) = gap
      at countEq upper ends lowBound gapPos ⊢
    have productEq : count * (denominator * gap) = magnitude * denominator := by
      rw [← countEq, Nat.mul_right_comm, Nat.mul_assoc]
    rw [Nat.add_mul, Nat.mul_assoc, Nat.mul_assoc, Nat.mul_comm gap]
      at lowBound upper
    rw [Nat.add_mul, Nat.mul_assoc, Nat.mul_assoc, Nat.mul_comm gap] at ends
    have rounded : nearestEven numerator (denominator * gap) = count := by
      refine nearestEven_eq ?_ ?_ ?_ (Nat.mul_pos positive gapPos)
      · rw [productEq]
        omega
      · rw [productEq]
        omega
      · rw [productEq]
        omega
    rw [rounded, countEq]
  · have wide : 0 < gridExponent magnitude := by omega
    rw [low_around_of_boundary wide boundary] at lower
    rw [halfGap] at boundary lower
    have gapEq : twoPow (gridExponent (numerator / denominator) + 1) =
        2 * twoPow (gridExponent (numerator / denominator)) := by
      rw [twoPow_add, Nat.mul_comm]
      rfl
    have magnitudeEq : magnitude =
        twoPow 53 * twoPow (gridExponent (numerator / denominator)) := by
      rw [boundary, ← twoPow_add]
      congr 1
      omega
    have numeratorLess : numerator < magnitude * denominator :=
      (Nat.div_lt_iff_lt_mul positive).mp floorLess
    have gapPos := twoPow_pos (gridExponent (numerator / denominator))
    rw [gapEq] at lower
    generalize twoPow (gridExponent (numerator / denominator)) = gap
      at lower magnitudeEq gapPos ⊢
    rw [Nat.sub_mul, Nat.mul_assoc, Nat.mul_assoc, Nat.mul_comm gap] at lower
    have productEq :
        twoPow 53 * (denominator * gap) = magnitude * denominator := by
      rw [magnitudeEq, Nat.mul_right_comm, Nat.mul_assoc]
    have rounded :
        nearestEven numerator (denominator * gap) = twoPow 53 := by
      refine nearestEven_eq ?_ ?_ (Or.inl (by decide))
        (Nat.mul_pos positive gapPos)
      · rw [productEq]
        omega
      · rw [productEq]
        omega
    rw [rounded, magnitudeEq]

end Grid

end TableGateway
