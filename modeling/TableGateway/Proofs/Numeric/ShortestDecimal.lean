import TableGateway.Proofs.Numeric.Rounding

/-!
# The search for the shortest decimal

For every double the search through the decimal grids comes to a point, and
that point rounds to the double (`Decimal.shortest_spec`). The grid of the last
step is finer than a quarter of the gap between doubles, so that there the point
below the double is always close enough.
-/

namespace TableGateway

/-! ## Powers of ten between powers of two -/

theorem tenPow_le_twoPow {exponent power : Nat}
    (bound : 10 * exponent ≤ 3 * power) : tenPow exponent ≤ twoPow power := by
  have thousand : (10 ^ 3) ^ power ≤ (2 ^ 10) ^ power :=
    Nat.pow_le_pow_left (by decide) power
  have tenth : (10 ^ exponent) ^ 10 ≤ (2 ^ power) ^ 10 := by
    rw [← Nat.pow_mul, ← Nat.pow_mul, Nat.mul_comm exponent,
      Nat.mul_comm power, Nat.pow_mul 2]
    refine Nat.le_trans (Nat.pow_le_pow_right (by decide) bound) ?_
    rw [Nat.pow_mul]
    exact thousand
  exact (Nat.pow_le_pow_iff_left (by decide)).mp tenth

theorem twoPow_le_tenPow {power exponent : Nat}
    (bound : 10 * power ≤ 33 * exponent) :
    twoPow power ≤ tenPow exponent := by
  have billions : (2 ^ 33) ^ exponent ≤ (10 ^ 10) ^ exponent :=
    Nat.pow_le_pow_left (by decide) exponent
  have tenth : (2 ^ power) ^ 10 ≤ (10 ^ exponent) ^ 10 := by
    rw [← Nat.pow_mul, ← Nat.pow_mul, Nat.mul_comm power,
      Nat.mul_comm exponent, Nat.pow_mul 10]
    refine Nat.le_trans (Nat.pow_le_pow_right (by decide) bound) ?_
    rw [Nat.pow_mul]
    exact billions
  exact (Nat.pow_le_pow_iff_left (by decide)).mp tenth

theorem tenPow_pos (exponent : Nat) : 0 < tenPow exponent :=
  Nat.pow_pos (by decide)

/-! ## Points of decimal grids -/

namespace Decimal

variable {magnitude : Nat} {exponent : Int}

/-- The numerator of the unit of a decimal grid. -/
def gridUp (exponent : Int) : Nat :=
  tenPow exponent.toNat * unitsPerOne

/-- The denominator of the unit of a decimal grid. -/
def gridDown (exponent : Int) : Nat :=
  tenPow (-exponent).toNat

theorem gridUp_pos (exponent : Int) : 0 < gridUp exponent :=
  Nat.mul_pos (tenPow_pos _) unitsPerOne_pos

theorem gridDown_pos (exponent : Int) : 0 < gridDown exponent :=
  tenPow_pos _

theorem gridUp_of_nonpos (small : exponent ≤ 0) :
    gridUp exponent = unitsPerOne := by
  have oneEq : tenPow 0 = 1 := rfl
  unfold gridUp
  rw [Int.toNat_of_nonpos small, oneEq, Nat.one_mul]

theorem gridDown_of_nonneg (large : 0 ≤ exponent) : gridDown exponent = 1 := by
  unfold gridDown
  rw [Int.toNat_of_nonpos (by omega)]
  rfl

/-- A decimal that is positive and rounds to a magnitude. -/
structure ReadsBack (magnitude : Nat) (decimal : Decimal) : Prop where
  positive : 0 < decimal.digits
  covered : (RoundingInterval.around magnitude).covers
    (4 * decimal.digits * gridUp decimal.exponent)
    (gridDown decimal.exponent) = true

theorem readsBack_of_onGrid? {decimal : Decimal}
    (found : onGrid? magnitude exponent = some decimal) :
    decimal.exponent = exponent ∧ ReadsBack magnitude decimal := by
  unfold onGrid? at found
  dsimp only at found
  split at found
  · rename_i condition
    rw [Bool.and_eq_true, Bool.and_eq_true, decide_eq_true_eq] at condition
    cases found
    exact ⟨rfl, condition.1.1, condition.1.2⟩
  · split at found
    · rename_i condition
      rw [Bool.and_eq_true, decide_eq_true_eq] at condition
      cases found
      exact ⟨rfl, condition.1, condition.2⟩
    · cases found

/-- The multiple of a fine unit below a magnitude is less than a quarter of the
gap away. -/
theorem low_mul_lt_of_fine {low gap magnitude below up down : Nat}
    (lowBound : low + gap ≤ 4 * magnitude)
    (fine : 4 * up ≤ gap * down)
    (belowLt : magnitude * down < up * (below + 1)) :
    low * down < 4 * below * up := by
  have lowProduct := Nat.mul_le_mul_right down lowBound
  rw [Nat.add_mul, Nat.mul_assoc] at lowProduct
  rw [Nat.mul_succ, Nat.mul_comm up] at belowLt
  rw [Nat.mul_assoc]
  omega

/-- On a grid finer than a quarter of the gap there is a point to be found. -/
theorem isSome_onGrid?_of_fine (positive : 0 < magnitude)
    (onGrid : twoPow (gridExponent magnitude) ∣ magnitude)
    (fine : 4 * gridUp exponent ≤
      twoPow (gridExponent magnitude) * gridDown exponent) :
    (onGrid? magnitude exponent).isSome = true := by
  have upPos := gridUp_pos exponent
  have downPos := gridDown_pos exponent
  have gapPos := twoPow_pos (gridExponent magnitude)
  have gapLe : twoPow (gridExponent magnitude) * gridDown exponent ≤
      magnitude * gridDown exponent :=
    Nat.mul_le_mul_right _ (Nat.le_of_dvd positive onGrid)
  have belowLe :=
    Nat.div_mul_le_self (magnitude * gridDown exponent) (gridUp exponent)
  have belowLt :=
    Nat.lt_mul_div_succ (magnitude * gridDown exponent) upPos
  have belowPos : 0 < magnitude * gridDown exponent / gridUp exponent :=
    Nat.div_pos (by omega) upPos
  have belowCovered : (RoundingInterval.around magnitude).covers
      (4 * (magnitude * gridDown exponent / gridUp exponent) *
        gridUp exponent) (gridDown exponent) = true := by
    apply RoundingInterval.covers_of_between
    · exact low_mul_lt_of_fine (low_around_add_le positive onGrid) fine
        belowLt
    · rw [high_around, Nat.mul_assoc, Nat.add_mul, Nat.mul_assoc 4 magnitude]
      refine Nat.lt_of_le_of_lt (Nat.mul_le_mul_left 4 belowLe) ?_
      exact Nat.lt_add_of_pos_right
        (Nat.mul_pos (Nat.mul_pos (by decide) gapPos) downPos)
  have found : (decide
      (0 < magnitude * gridDown exponent / gridUp exponent) &&
        (RoundingInterval.around magnitude).covers
          (4 * (magnitude * gridDown exponent / gridUp exponent) *
            gridUp exponent) (gridDown exponent)) = true := by
    rw [belowCovered, decide_eq_true belowPos]
    rfl
  unfold gridUp gridDown at found
  unfold onGrid?
  dsimp only
  simp only [found, Bool.true_and]
  split
  · rfl
  · rename_i condition
    rw [Bool.or_eq_true, not_or, Bool.not_eq_true', Bool.not_eq_false]
      at condition
    rw [if_pos condition.2]
    rfl

/-! ## The search -/

theorem log2_le_of_finite (inRange : magnitude < overflowMagnitude) :
    Nat.log2 magnitude ≤ 2097 := by
  by_cases zero : magnitude = 0
  · rw [zero]
    simp
  · have bound : Nat.log2 magnitude < overflowExponent :=
      log2_lt_of_lt_twoPow zero inRange
    have exponentEq : overflowExponent = 2098 := rfl
    omega

/-- The grid of the last step of the search is fine enough. -/
theorem fine_lastStep (inRange : magnitude < overflowMagnitude) :
    4 * gridUp (exponentAbove magnitude - 21) ≤
      twoPow (gridExponent magnitude) *
        gridDown (exponentAbove magnitude - 21) := by
  have logBound := log2_le_of_finite inRange
  have fourEq : 4 = twoPow 2 := rfl
  unfold gridUp gridDown exponentAbove gridExponent unitsPerOne unitExponent
  generalize Nat.log2 magnitude = bits at logBound
  generalize exponentEq :
    ((bits : Int) - 1073) * 30103 / 100000 + 1 - 21 = exponent
  by_cases negative : exponent < 0
  · have upEq : exponent.toNat = 0 := by omega
    have powerBound : twoPow (1076 - (bits - 52)) ≤ tenPow (-exponent).toNat :=
      twoPow_le_tenPow (by omega)
    have oneEq : tenPow 0 = 1 := rfl
    rw [upEq, oneEq, Nat.one_mul, fourEq, ← twoPow_add]
    refine Nat.le_trans ?_ (Nat.mul_le_mul_left _ powerBound)
    rw [← twoPow_add]
    exact twoPow_le_twoPow (by omega)
  · have downEq : (-exponent).toNat = 0 := by omega
    have powerBound : tenPow exponent.toNat ≤ twoPow (bits - 1128) :=
      tenPow_le_twoPow (by omega)
    have oneEq : tenPow 0 = 1 := rfl
    rw [downEq, oneEq, Nat.mul_one, fourEq]
    refine Nat.le_trans (Nat.mul_le_mul_left _
      (Nat.mul_le_mul_right _ powerBound)) ?_
    rw [← twoPow_add, ← twoPow_add]
    exact twoPow_le_twoPow (by omega)

/-- The shortest decimal of a positive double rounds to it, and its exponent is
small. -/
theorem shortest_spec (positive : 0 < magnitude)
    (onGrid : twoPow (gridExponent magnitude) ∣ magnitude)
    (inRange : magnitude < overflowMagnitude) :
    ReadsBack magnitude (shortest magnitude) ∧
      -400 ≤ (shortest magnitude).exponent ∧
      (shortest magnitude).exponent ≤ 400 := by
  have lastFound :=
    isSome_onGrid?_of_fine positive onGrid (fine_lastStep inRange)
  have searchFound :
      ((List.range 22).findSome? fun (step : Nat) =>
        onGrid? magnitude (exponentAbove magnitude - step)).isSome = true := by
    rw [List.findSome?_isSome_iff]
    exact ⟨21, List.mem_range.mpr (by decide), lastFound⟩
  obtain ⟨decimal, found⟩ := Option.isSome_iff_exists.mp searchFound
  have shortestEq : shortest magnitude = decimal := by
    unfold shortest
    dsimp only
    rw [found]
    rfl
  obtain ⟨step, stepMember, stepFound⟩ :=
    List.exists_of_findSome?_eq_some found
  obtain ⟨exponentEq, readsBack⟩ := readsBack_of_onGrid? stepFound
  rw [shortestEq]
  refine ⟨readsBack, ?_⟩
  have stepBound := List.mem_range.mp stepMember
  have logBound := log2_le_of_finite inRange
  rw [exponentEq]
  unfold exponentAbove
  omega

end Decimal

end TableGateway
