import Mathlib.Data.List.TakeWhile
import TableGateway.Json.Number

/-!
# Integers as doubles

The text of an integer reads back as the double nearest to it. Two integers
compare as equal exactly when they have the same nearest double, which below
`2 ^ 53` means that they are the same (`Reading.ofInt_eq_ofInt_iff`).
-/

namespace TableGateway

/-! ## Rounding whole units -/

theorem roundToGrid_zero : roundToGrid 0 1 = 0 := by
  unfold roundToGrid nearestEven
  simp

/-- What lies on the grid stays where it is. -/
theorem roundToGrid_of_dvd {magnitude : Nat}
    (onGrid : twoPow (gridExponent magnitude) ∣ magnitude) :
    roundToGrid magnitude 1 = magnitude := by
  unfold roundToGrid nearestEven
  dsimp only
  rw [Nat.div_one, Nat.one_mul, Nat.mod_eq_zero_of_dvd onGrid,
    if_pos (by rw [Nat.mul_zero]; exact twoPow_pos _)]
  exact Nat.div_mul_cancel onGrid

theorem div_le_nearestEven (numerator denominator : Nat) :
    numerator / denominator ≤ nearestEven numerator denominator := by
  unfold nearestEven
  dsimp only
  split
  · exact Nat.le_refl _
  · split
    · exact Nat.le_succ _
    · split
      · exact Nat.le_refl _
      · exact Nat.le_succ _

/-- Rounding does not lead below the greatest power of two. -/
theorem twoPow_log2_le_roundToGrid {magnitude : Nat}
    (positive : magnitude ≠ 0) :
    twoPow (Nat.log2 magnitude) ≤ roundToGrid magnitude 1 := by
  unfold roundToGrid
  dsimp only
  rw [Nat.div_one, Nat.one_mul]
  generalize exponentEq : gridExponent magnitude = exponent
  have exponentBound : exponent ≤ Nat.log2 magnitude := by
    rw [← exponentEq]
    exact Nat.sub_le _ _
  have powerEq :
      twoPow (Nat.log2 magnitude) =
        twoPow (Nat.log2 magnitude - exponent) * twoPow exponent := by
    rw [← twoPow_add, Nat.sub_add_cancel exponentBound]
  have powerBound : twoPow (Nat.log2 magnitude) ≤ magnitude :=
    Nat.log2_self_le positive
  rw [powerEq]
  apply Nat.mul_le_mul_right
  refine Nat.le_trans ?_ (div_le_nearestEven _ _)
  rw [Nat.le_div_iff_mul_le (twoPow_pos exponent), ← powerEq]
  exact powerBound

/-! ## Readings -/

theorem Binary64.eq_of_parts {left right : Binary64}
    (sameSign : left.negative = right.negative)
    (sameMagnitude : left.magnitude = right.magnitude) :
    left = right := by
  cases left
  cases right
  cases sameSign
  cases sameMagnitude
  rfl

/-- A quotient reads as a double of its sign and its rounded magnitude, or as
an infinity when that is too great. -/
theorem Reading.ofQuotient_cases (negative : Bool)
    (numerator denominator : Nat) :
    (∃ number : Binary64,
      ofQuotient negative numerator denominator = finite number ∧
        number.negative = negative ∧
        number.magnitude = roundToGrid numerator denominator) ∨
    (overflowMagnitude ≤ roundToGrid numerator denominator ∧
      ofQuotient negative numerator denominator = infinite negative) := by
  unfold ofQuotient Binary64.ofQuotient?
  by_cases inRange :
      roundToGrid numerator denominator < overflowMagnitude
  · rw [dif_pos inRange]
    exact .inl ⟨_, rfl, rfl, rfl⟩
  · rw [dif_neg inRange]
    exact .inr ⟨Nat.le_of_not_lt inRange, rfl⟩

theorem Reading.ofQuotient_zero (negative : Bool) :
    ofQuotient negative 0 1 = finite (Binary64.zero negative) := by
  rcases ofQuotient_cases negative 0 1 with
    ⟨number, equality, signEq, magnitudeEq⟩ | ⟨overflow, _⟩
  · rw [equality]
    rw [roundToGrid_zero] at magnitudeEq
    exact congrArg finite (Binary64.eq_of_parts signEq magnitudeEq)
  · rw [roundToGrid_zero] at overflow
    exact absurd overflowMagnitude_pos (Nat.not_lt.mpr overflow)

theorem Reading.ofDecimal_natural (negative : Bool)
    (number length : Nat) :
    ofDecimal negative number length 0 =
      ofQuotient negative (number * unitsPerOne) 1 := by
  unfold ofDecimal
  by_cases zero : number = 0
  · rw [if_pos zero, zero, Nat.zero_mul, ofQuotient_zero]
  · rw [if_neg zero, if_neg (by decide), if_neg (by omega)]
    have oneEq : tenPow 0 = 1 := rfl
    rw [Int.neg_zero, Int.toNat_zero, oneEq, Nat.mul_one]

/-! ## Reading the text of an integer -/

theorem all_isDigit_decimalDigits (number : Nat) :
    ∀ letter ∈ decimalDigits number, letter.isDigit = true :=
  fun _ member =>
    Nat.isDigit_of_mem_toDigits (by decide) (by decide) member

theorem digitsValue_decimalDigits (number : Nat) :
    digitsValue (decimalDigits number) = number :=
  Nat.ofDigitChars_ten_toDigits

theorem spanDigits_decimalDigits (number : Nat) :
    spanDigits (decimalDigits number) = (decimalDigits number, []) := by
  have digits := all_isDigit_decimalDigits number
  unfold spanDigits
  rw [List.takeWhile_eq_self_iff.mpr digits,
    List.dropWhile_eq_nil_iff.mpr digits]

/-- The digits of a number read as a word unless the number is too large. -/
theorem readWord?_decimalDigits (number : Nat) :
    readWord? (decimalDigits number) =
      (some number).filter (· ≤ wordMax) := by
  have digits := all_isDigit_decimalDigits number
  have read : readDigits? (decimalDigits number) = some number := by
    have nonempty : decimalDigits number ≠ [] := Nat.toDigits_ne_nil
    have allDigits : (decimalDigits number).all Char.isDigit = true :=
      List.all_eq_true.mpr digits
    rw [readDigits?, if_pos (by simp [nonempty, allDigits]),
      digitsValue_decimalDigits]
  unfold readWord?
  split
  · rename_i rest equality
    rw [equality] at digits
    exact absurd (digits '+' List.mem_cons_self) (by decide)
  · dsimp only
    rw [read]

theorem spanSign_decimalDigits (number : Nat) :
    spanSign (decimalDigits number) = (false, decimalDigits number) := by
  have digits := all_isDigit_decimalDigits number
  unfold spanSign
  split
  · rename_i rest equality
    rw [equality] at digits
    exact absurd (digits '-' List.mem_cons_self) (by decide)
  · rename_i rest equality
    rw [equality] at digits
    exact absurd (digits '+' List.mem_cons_self) (by decide)
  · rfl

theorem readUnsigned?_decimalDigits (negative : Bool) (number : Nat) :
    readUnsigned? negative (decimalDigits number) =
      some (Reading.ofQuotient negative (number * unitsPerOne) 1) := by
  have nonempty : (decimalDigits number).isEmpty = false := by
    rw [List.isEmpty_eq_false_iff]
    exact Nat.toDigits_ne_nil
  unfold readUnsigned?
  rw [spanDigits_decimalDigits]
  simp only [spanFraction, List.append_nil, nonempty, Bool.false_eq_true,
    if_false, readExponent?, Option.map_some, List.length_nil,
    Int.natCast_zero, Int.sub_zero]
  rw [digitsValue_decimalDigits, Reading.ofDecimal_natural]

/-- The text of an integer reads back as the nearest double. -/
theorem readDouble?_integerText (number : Int) :
    readDouble? (integerText number) = some (Reading.ofInt number) := by
  unfold integerText readDouble? Reading.ofInt
  by_cases negative : number < 0
  · rw [if_pos negative]
    simp only [spanSign, decide_eq_true negative,
      readUnsigned?_decimalDigits]
    rfl
  · rw [if_neg negative, spanSign_decimalDigits]
    simp only [decide_eq_false negative, readUnsigned?_decimalDigits]
    rfl

/-! ## Integers with one nearest double -/

theorem twoPow_unitExponent : twoPow unitExponent = unitsPerOne := rfl

theorem unitsPerOne_pos : 0 < unitsPerOne :=
  twoPow_pos unitExponent

theorem units_ne_zero {number : Nat} (positive : number ≠ 0) :
    number * unitsPerOne ≠ 0 :=
  Nat.mul_ne_zero positive (Nat.pos_iff_ne_zero.mp unitsPerOne_pos)

theorem le_log2_of_twoPow_le {number exponent : Nat}
    (positive : number ≠ 0) (bound : twoPow exponent ≤ number) :
    exponent ≤ Nat.log2 number :=
  (Nat.le_log2 positive).mpr bound

/-- A natural number of at most 53 bits is a double. -/
theorem roundToGrid_units {number : Nat} (small : number < twoPow 53) :
    roundToGrid (number * unitsPerOne) 1 = number * unitsPerOne := by
  have bound : number * unitsPerOne < twoPow (unitExponent + 53) := by
    rw [Nat.add_comm, twoPow_add, twoPow_unitExponent]
    exact Nat.mul_lt_mul_of_pos_right small unitsPerOne_pos
  apply roundToGrid_of_dvd
  exact Nat.dvd_trans (twoPow_dvd_twoPow (gridExponent_le bound))
    (Nat.dvd_mul_left _ _)

/-- No other natural number rounds to one of at most 53 bits. -/
theorem eq_of_roundToGrid_units_eq {number other : Nat}
    (small : number < twoPow 53)
    (same :
      roundToGrid (other * unitsPerOne) 1 =
        roundToGrid (number * unitsPerOne) 1) :
    other = number := by
  rw [roundToGrid_units small] at same
  by_cases otherSmall : other < twoPow 53
  · rw [roundToGrid_units otherSmall] at same
    exact Nat.eq_of_mul_eq_mul_right unitsPerOne_pos same
  · -- The greatest power of two below the other number is above this one.
    exfalso
    have large : twoPow 53 ≤ other := Nat.le_of_not_lt otherSmall
    have otherPositive : other ≠ 0 :=
      Nat.pos_iff_ne_zero.mp (Nat.lt_of_lt_of_le (twoPow_pos 53) large)
    have unitsLarge : twoPow (53 + unitExponent) ≤ other * unitsPerOne := by
      rw [twoPow_add, twoPow_unitExponent]
      exact Nat.mul_le_mul_right _ large
    have logLarge :
        53 + unitExponent ≤ Nat.log2 (other * unitsPerOne) :=
      le_log2_of_twoPow_le (units_ne_zero otherPositive) unitsLarge
    have rounded :=
      Nat.le_trans (twoPow_le_twoPow logLarge)
        (twoPow_log2_le_roundToGrid (units_ne_zero otherPositive))
    rw [same, twoPow_add, twoPow_unitExponent] at rounded
    exact Nat.not_lt.mpr rounded
      (Nat.mul_lt_mul_of_pos_right small unitsPerOne_pos)

namespace Binary64

theorem compare_eq_iff (left right : Binary64) :
    left.compare right = .eq ↔ left.units = right.units :=
  Std.LawfulEqOrd.compare_eq_iff_eq

/-- Doubles of the same value are the same unless they are zeros. -/
theorem eq_of_units_eq {left right : Binary64}
    (nonzero : left.magnitude = 0 → left.negative = right.negative)
    (same : left.units = right.units) : left = right := by
  unfold units at same
  have magnitudeEq : left.magnitude = right.magnitude := by
    split at same <;> split at same <;> omega
  by_cases zero : left.magnitude = 0
  · exact eq_of_parts (nonzero zero) magnitudeEq
  · apply eq_of_parts _ magnitudeEq
    cases leftSign : left.negative with
    | false =>
        cases rightSign : right.negative with
        | false => rfl
        | true =>
            rw [leftSign, rightSign, if_pos rfl, if_neg (by decide)] at same
            omega
    | true =>
        cases rightSign : right.negative with
        | false =>
            rw [leftSign, rightSign, if_pos rfl, if_neg (by decide)] at same
            omega
        | true => rfl

end Binary64

namespace Reading

/-- An integer reads as a double of its sign, which is zero only for zero, or
as an infinity. -/
theorem ofInt_cases (number : Int) :
    (∃ double : Binary64,
      ofInt number = finite double ∧
        double.negative = decide (number < 0) ∧
        double.magnitude =
          roundToGrid (number.natAbs * unitsPerOne) 1) ∨
    (overflowMagnitude ≤ roundToGrid (number.natAbs * unitsPerOne) 1 ∧
      ofInt number = infinite (decide (number < 0))) :=
  ofQuotient_cases _ _ _

theorem eq_zero_of_roundToGrid_eq_zero {number : Nat}
    (zero : roundToGrid (number * unitsPerOne) 1 = 0) : number = 0 := by
  have small : 0 < twoPow 53 := twoPow_pos 53
  refine eq_of_roundToGrid_units_eq small ?_
  rw [zero, Nat.zero_mul, roundToGrid_zero]

/-- Integers compare as equal exactly when they have the same double. -/
theorem compare?_ofInt_eq_iff (left right : Int) :
    (ofInt left).compare? (ofInt right) = some .eq ↔
      ofInt left = ofInt right := by
  rcases ofInt_cases left with
    ⟨leftDouble, leftEq, leftSign, leftMagnitude⟩ | ⟨_, leftEq⟩
  · rcases ofInt_cases right with
      ⟨rightDouble, rightEq, rightSign, rightMagnitude⟩ | ⟨_, rightEq⟩
    · rw [leftEq, rightEq]
      unfold compare?
      rw [Option.some.injEq, Binary64.compare_eq_iff, finite.injEq]
      constructor
      · intro same
        refine Binary64.eq_of_units_eq ?_ same
        intro leftZero
        have rightZero : rightDouble.magnitude = 0 := by
          unfold Binary64.units at same
          split at same <;> split at same <;> omega
        rw [leftMagnitude] at leftZero
        rw [rightMagnitude] at rightZero
        have leftNumber := eq_zero_of_roundToGrid_eq_zero leftZero
        have rightNumber := eq_zero_of_roundToGrid_eq_zero rightZero
        rw [leftSign, rightSign, Int.natAbs_eq_zero.mp leftNumber,
          Int.natAbs_eq_zero.mp rightNumber]
      · exact congrArg Binary64.units
    · rw [leftEq, rightEq]
      unfold compare?
      cases decide (right < 0) <;> simp
  · rcases ofInt_cases right with
      ⟨rightDouble, rightEq, _, _⟩ | ⟨_, rightEq⟩
    · rw [leftEq, rightEq]
      unfold compare?
      cases decide (left < 0) <;> simp
    · rw [leftEq, rightEq]
      unfold compare?
      cases decide (left < 0) <;> cases decide (right < 0) <;> decide

/-- An integer below `2 ^ 53` shares its double with no other integer. -/
theorem ofInt_eq_ofInt_iff {number other : Int}
    (small : number.natAbs < twoPow 53) :
    ofInt other = ofInt number ↔ other = number := by
  constructor
  · intro same
    have unitsBound :
        roundToGrid (number.natAbs * unitsPerOne) 1 <
          overflowMagnitude := by
      rw [roundToGrid_units small]
      refine Nat.lt_of_lt_of_le
        (Nat.mul_lt_mul_of_pos_right small unitsPerOne_pos) ?_
      unfold unitsPerOne overflowMagnitude overflowExponent
      rw [twoPow_add]
      exact Nat.mul_le_mul_right _ (twoPow_le_twoPow (by decide))
    rcases ofInt_cases number with
      ⟨double, numberEq, numberSign, numberMagnitude⟩ | ⟨overflow, _⟩
    · rcases ofInt_cases other with
        ⟨otherDouble, otherEq, otherSign, otherMagnitude⟩ | ⟨_, otherEq⟩
      · rw [numberEq, otherEq, finite.injEq] at same
        rw [same] at otherSign otherMagnitude
        have absEq : other.natAbs = number.natAbs :=
          eq_of_roundToGrid_units_eq small
            (otherMagnitude.symm.trans numberMagnitude)
        have signIff : other < 0 ↔ number < 0 :=
          decide_eq_decide.mp (otherSign.symm.trans numberSign)
        omega
      · rw [numberEq, otherEq] at same
        cases same
    · exact absurd unitsBound (Nat.not_lt.mpr overflow)
  · exact congrArg ofInt

end Reading

end TableGateway
