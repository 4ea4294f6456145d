import TableGateway.Proofs.Numeric.ShortestDecimal

/-!
# The text of a double reads back

Each of the four forms of a decimal, with zeros before or behind the digits, a
point among them, or an exponent, reads as the value of the decimal. Hence the
text of a double reads back as that double, and the text of a number as its
nearest double (`readDouble?_text`, `Number.readDouble?_text`).
-/

namespace TableGateway

/-! ## Spans of digits -/

section Spans

variable {whole fraction ending : List Char}

theorem spanDigits_append (digits : ∀ letter ∈ whole, letter.isDigit = true)
    (ends : ∀ letter, ending.head? = some letter → letter.isDigit = false) :
    spanDigits (whole ++ ending) = (whole, ending) := by
  unfold spanDigits
  rw [List.takeWhile_append_of_pos digits, List.dropWhile_append_of_pos digits]
  cases ending with
  | nil => simp
  | cons letter rest =>
      have stops := ends letter rfl
      simp [stops]

theorem noDigit_nil (letter : Char)
    (first : ([] : List Char).head? = some letter) : letter.isDigit = false :=
  nomatch first

/-- Digits, a point and further digits before an exponent. -/
theorem readUnsigned?_of_point {exponent : Int} (negative : Bool)
    (wholeDigits : ∀ letter ∈ whole, letter.isDigit = true)
    (fractionDigits : ∀ letter ∈ fraction, letter.isDigit = true)
    (nonempty : whole ≠ [])
    (ends : ∀ letter, ending.head? = some letter → letter.isDigit = false)
    (read : readExponent? ending = some exponent) :
    readUnsigned? negative (whole ++ '.' :: (fraction ++ ending)) =
      some (Reading.ofDecimal negative (digitsValue (whole ++ fraction))
        (whole ++ fraction).length (exponent - fraction.length)) := by
  have wholeSpan :
      spanDigits (whole ++ '.' :: (fraction ++ ending)) =
        (whole, '.' :: (fraction ++ ending)) := by
    refine spanDigits_append wholeDigits ?_
    rintro letter ⟨⟩
    rfl
  have digitsGiven : (whole ++ fraction).isEmpty = false := by
    rw [List.isEmpty_eq_false_iff]
    exact List.append_ne_nil_of_left_ne_nil nonempty _
  have fractionSpan :
      spanFraction ('.' :: (fraction ++ ending)) = (fraction, ending) :=
    spanDigits_append fractionDigits ends
  unfold readUnsigned?
  rw [wholeSpan]
  dsimp only
  rw [fractionSpan]
  simp only [digitsGiven, Bool.false_eq_true, if_false, read,
    Option.map_some]

theorem readUnsigned?_of_no_point {exponent : Int} (negative : Bool)
    (wholeDigits : ∀ letter ∈ whole, letter.isDigit = true)
    (nonempty : whole ≠ [])
    (ends : ∀ letter, ending.head? = some letter →
      letter.isDigit = false ∧ letter ≠ '.')
    (read : readExponent? ending = some exponent) :
    readUnsigned? negative (whole ++ ending) =
      some (Reading.ofDecimal negative (digitsValue whole) whole.length
        exponent) := by
  have noFraction : spanFraction ending = ([], ending) := by
    cases ending with
    | nil => rfl
    | cons letter rest =>
        have notPoint := (ends letter rfl).2
        unfold spanFraction
        split
        · rename_i tail equality
          exact absurd (List.cons.inj equality).1 notPoint
        · rfl
  have digitsGiven : whole.isEmpty = false :=
    List.isEmpty_eq_false_iff.mpr nonempty
  unfold readUnsigned?
  rw [spanDigits_append wholeDigits fun letter first => (ends letter first).1]
  dsimp only
  rw [noFraction]
  simp only [List.append_nil, digitsGiven, Bool.false_eq_true, if_false,
    read, Option.map_some, List.length_nil, Int.natCast_zero, Int.sub_zero]

theorem readExponent?_of_sign (exponent : Int) :
    readExponent?
        ('e' :: (if exponent < 0 then '-' else '+') ::
          decimalDigits exponent.natAbs) =
      some exponent := by
  have digitsRead : readDigits? (decimalDigits exponent.natAbs) =
      some exponent.natAbs := by
    have nonempty : (decimalDigits exponent.natAbs).isEmpty = false := by
      rw [List.isEmpty_eq_false_iff]
      exact Nat.toDigits_ne_nil
    have allDigits :
        (decimalDigits exponent.natAbs).all Char.isDigit = true := by
      rw [List.all_eq_true]
      exact all_isDigit_decimalDigits _
    unfold readDigits?
    rw [nonempty, allDigits, digitsValue_decimalDigits]
    rfl
  unfold readExponent?
  simp only [true_or, if_true]
  by_cases negative : exponent < 0
  · rw [if_pos negative]
    simp only [spanSign, digitsRead]
    change some (-(exponent.natAbs : Int)) = some exponent
    rw [Option.some.injEq]
    omega
  · rw [if_neg negative]
    simp only [spanSign, digitsRead]
    change some (exponent.natAbs : Int) = some exponent
    rw [Option.some.injEq]
    omega

end Spans

/-! ## Values of decimals -/

/-- A number of the same value as a decimal that rounds to a double reads as
that double. -/
theorem Reading.ofDecimal_eq_finite {number : Binary64} {decimal : Decimal}
    (readsBack : decimal.ReadsBack number.magnitude)
    {digits length : Nat} {exponent : Int}
    (same : digits * Decimal.gridUp exponent *
        Decimal.gridDown decimal.exponent =
      decimal.digits * Decimal.gridUp decimal.exponent *
        Decimal.gridDown exponent)
    (exponentLe : exponent ≤ 400) (lengthBound : -400 ≤ exponent + length) :
    ofDecimal number.negative digits length exponent = finite number := by
  have digitsPos : digits ≠ 0 := by
    rintro rfl
    rw [Nat.zero_mul, Nat.zero_mul] at same
    have positive := Nat.mul_pos
      (Nat.mul_pos readsBack.positive (Decimal.gridUp_pos decimal.exponent))
      (Decimal.gridDown_pos exponent)
    omega
  have covered : (RoundingInterval.around number.magnitude).covers
      (4 * (digits * Decimal.gridUp exponent))
      (Decimal.gridDown exponent) = true := by
    rw [RoundingInterval.covers_congr (Decimal.gridDown_pos exponent)
      (Decimal.gridDown_pos decimal.exponent), readsBack.covered]
    rw [Nat.mul_assoc 4, same, Nat.mul_assoc 4 decimal.digits,
      Nat.mul_assoc 4]
  have rounded := roundToGrid_of_covers number.onGrid
    (Decimal.gridDown_pos exponent) covered
  have quotientEq :
      ofDecimal number.negative digits length exponent =
        ofQuotient number.negative (digits * Decimal.gridUp exponent)
          (Decimal.gridDown exponent) := by
    unfold ofDecimal
    rw [if_neg digitsPos, if_neg (by omega), if_neg (by omega),
      Nat.mul_assoc]
    rfl
  rw [quotientEq]
  rcases ofQuotient_cases number.negative
    (digits * Decimal.gridUp exponent) (Decimal.gridDown exponent) with
    ⟨found, equality, signEq, magnitudeEq⟩ | ⟨overflow, _⟩
  · rw [equality]
    rw [rounded] at magnitudeEq
    exact congrArg finite (Binary64.eq_of_parts signEq magnitudeEq)
  · rw [rounded] at overflow
    exact absurd number.isFinite (Nat.not_lt.mpr overflow)

/-! ## Texts of decimals -/

theorem isDigit_of_mem_replicate_zero {count : Nat} {letter : Char}
    (member : letter ∈ List.replicate count '0') : letter.isDigit = true := by
  rw [List.eq_of_mem_replicate member]
  rfl

theorem digitsValue_zeros_append (count number : Nat) :
    digitsValue (List.replicate count '0' ++ decimalDigits number) =
      number := by
  unfold digitsValue
  rw [Nat.ofDigitChars_append, Nat.ofDigitChars_replicate_zero, Nat.mul_zero]
  exact digitsValue_decimalDigits number

/-- Zeros behind the digits of a number multiply it by ten each. -/
theorem digitsValue_append_zeros (number count : Nat) :
    digitsValue (decimalDigits number ++ List.replicate count '0') =
      number * tenPow count := by
  have valueEq := digitsValue_decimalDigits number
  unfold digitsValue at valueEq ⊢
  rw [Nat.ofDigitChars_append, valueEq, Nat.ofDigitChars_replicate_zero,
    Nat.mul_comm]
  rfl

namespace Decimal

variable {number : Binary64} {decimal : Decimal}

/-- Where the digits of a decimal are read with its exponent, the double is
found. -/
theorem ofDecimal_eq_finite_of_eq
    (readsBack : decimal.ReadsBack number.magnitude)
    (lower : -400 ≤ decimal.exponent) (upper : decimal.exponent ≤ 400)
    {digits length : Nat} {exponent : Int}
    (digitsEq : digits = decimal.digits)
    (exponentEq : exponent = decimal.exponent) :
    Reading.ofDecimal number.negative digits length exponent =
      .finite number := by
  subst digitsEq exponentEq
  exact Reading.ofDecimal_eq_finite readsBack rfl upper (by omega)

section Forms

variable (readsBack : decimal.ReadsBack number.magnitude)
  (lower : -400 ≤ decimal.exponent) (upper : decimal.exponent ≤ 400)

include readsBack

/-- Digits with zeros behind them. -/
theorem readUnsigned?_of_zeros_behind (natural : 0 ≤ decimal.exponent) :
    readUnsigned? number.negative
        (decimalDigits decimal.digits ++
          List.replicate decimal.exponent.toNat '0' ++ ['.', '0']) =
      some (.finite number) := by
  have wholeDigits : ∀ letter ∈ decimalDigits decimal.digits ++
      List.replicate decimal.exponent.toNat '0', letter.isDigit = true := by
    intro letter member
    rcases List.mem_append.mp member with inDigits | inZeros
    · exact all_isDigit_decimalDigits _ _ inDigits
    · exact isDigit_of_mem_replicate_zero inZeros
  have nonempty : decimalDigits decimal.digits ++
      List.replicate decimal.exponent.toNat '0' ≠ [] :=
    List.append_ne_nil_of_left_ne_nil Nat.toDigits_ne_nil _
  have read := @readUnsigned?_of_point _ ['0'] [] 0 number.negative
    wholeDigits (List.forall_mem_singleton.mpr rfl) nonempty noDigit_nil rfl
  have zeros : decimalDigits decimal.digits ++
      List.replicate decimal.exponent.toNat '0' ++ ['0'] =
        decimalDigits decimal.digits ++
          List.replicate (decimal.exponent.toNat + 1) '0' := by
    rw [List.append_assoc, ← List.replicate_succ']
  rw [zeros, digitsValue_append_zeros] at read
  refine read.trans (congrArg some ?_)
  apply Reading.ofDecimal_eq_finite readsBack
  · have powerEq : tenPow (decimal.exponent.toNat + 1) =
        tenPow decimal.exponent.toNat * 10 := rfl
    have tenEq : gridDown (0 - (List.length ['0'] : Int)) = 10 := rfl
    rw [gridUp_of_nonpos (by decide), gridDown_of_nonneg natural, tenEq,
      powerEq]
    unfold gridUp
    generalize unitsPerOne = units
    rw [Nat.mul_one, ← Nat.mul_assoc, Nat.mul_right_comm,
      Nat.mul_assoc decimal.digits]
  · rw [List.length_singleton]
    omega
  · rw [List.length_singleton]
    omega

/-- Digits with a point among them. -/
theorem readUnsigned?_of_point_inside (fractional : decimal.exponent < 0)
    (lower : -400 ≤ decimal.exponent)
    (inside : 0 <
      ((decimalDigits decimal.digits).length : Int) + decimal.exponent) :
    readUnsigned? number.negative
        ((decimalDigits decimal.digits).take
            ((decimalDigits decimal.digits).length +
              decimal.exponent).toNat ++
          '.' :: (decimalDigits decimal.digits).drop
            ((decimalDigits decimal.digits).length +
              decimal.exponent).toNat) =
      some (.finite number) := by
  have allDigits := all_isDigit_decimalDigits decimal.digits
  have valueEq := digitsValue_decimalDigits decimal.digits
  have pointEq : decimal.exponent =
      0 - ((decimalDigits decimal.digits).length -
        ((decimalDigits decimal.digits).length +
          decimal.exponent).toNat : Nat) := by
    omega
  generalize digitsEq : decimalDigits decimal.digits = digits
    at allDigits valueEq inside pointEq ⊢
  have placeLe : (digits.length + decimal.exponent).toNat ≤ digits.length := by
    omega
  generalize placeEq : (digits.length + decimal.exponent).toNat = place
    at placeLe pointEq ⊢
  have nonempty : digits.take place ≠ [] := by
    rw [← List.length_pos_iff, List.length_take]
    omega
  have read := @readUnsigned?_of_point _ (digits.drop place) [] 0
    number.negative
    (fun letter member => allDigits letter (List.mem_of_mem_take member))
    (fun letter member => allDigits letter (List.mem_of_mem_drop member))
    nonempty noDigit_nil rfl
  rw [List.append_nil] at read
  refine read.trans (congrArg some ?_)
  apply ofDecimal_eq_finite_of_eq readsBack lower (by omega)
  · rw [List.take_append_drop, valueEq]
  · rw [List.length_drop]
    omega

/-- Digits behind a point and zeros. -/
theorem readUnsigned?_of_zeros_before (lower : -400 ≤ decimal.exponent)
    (outside :
      ((decimalDigits decimal.digits).length : Int) + decimal.exponent ≤ 0) :
    readUnsigned? number.negative
        ('0' :: '.' ::
          (List.replicate
              (-((decimalDigits decimal.digits).length +
                decimal.exponent)).toNat '0' ++
            decimalDigits decimal.digits)) =
      some (.finite number) := by
  generalize zerosEq :
    (-((decimalDigits decimal.digits).length + decimal.exponent)).toNat = zeros
  have fractionDigits : ∀ letter ∈ List.replicate zeros '0' ++
      decimalDigits decimal.digits, letter.isDigit = true := by
    intro letter member
    rcases List.mem_append.mp member with inZeros | inDigits
    · exact isDigit_of_mem_replicate_zero inZeros
    · exact all_isDigit_decimalDigits _ _ inDigits
  have read := @readUnsigned?_of_point ['0'] _ [] 0 number.negative
    (List.forall_mem_singleton.mpr rfl) fractionDigits
    (List.cons_ne_nil _ _) noDigit_nil rfl
  rw [List.append_nil] at read
  refine read.trans (congrArg some ?_)
  apply ofDecimal_eq_finite_of_eq readsBack lower (by omega)
  · exact digitsValue_zeros_append (zeros + 1) decimal.digits
  · rw [List.length_append, List.length_replicate]
    omega

/-- Digits with a point behind the first, and an exponent. -/
theorem readUnsigned?_of_scientific (lower : -400 ≤ decimal.exponent)
    (upper : decimal.exponent ≤ 400)
    {first : Char} {others : List Char}
    (digitsEq : decimalDigits decimal.digits = first :: others)
    {exponent : Int}
    (exponentEq : exponent = others.length + decimal.exponent) :
    readUnsigned? number.negative
        ((match first :: others with
          | first :: second :: rest => first :: '.' :: second :: rest
          | short => short) ++
          'e' :: (if exponent < 0 then '-' else '+') ::
            decimalDigits exponent.natAbs) =
      some (.finite number) := by
  have allDigits := all_isDigit_decimalDigits decimal.digits
  have valueEq := digitsValue_decimalDigits decimal.digits
  rw [digitsEq] at allDigits valueEq
  rw [List.forall_mem_cons] at allDigits
  have exponentRead := readExponent?_of_sign exponent
  generalize decimalDigits exponent.natAbs = exponentDigits at exponentRead ⊢
  generalize (if exponent < 0 then '-' else '+') = sign at exponentRead ⊢
  cases others with
  | nil =>
      have read := @readUnsigned?_of_no_point [first] _ exponent
        number.negative (List.forall_mem_singleton.mpr allDigits.1)
        (List.cons_ne_nil _ _) (by rintro letter ⟨⟩; decide) exponentRead
      refine read.trans (congrArg some ?_)
      apply ofDecimal_eq_finite_of_eq readsBack lower upper valueEq
      rw [exponentEq, List.length_nil]
      omega
  | cons second rest =>
      have read := @readUnsigned?_of_point [first] (second :: rest) _ exponent
        number.negative (List.forall_mem_singleton.mpr allDigits.1)
        allDigits.2 (List.cons_ne_nil _ _)
        (by rintro letter ⟨⟩; decide) exponentRead
      refine read.trans (congrArg some ?_)
      apply ofDecimal_eq_finite_of_eq readsBack lower upper valueEq
      omega

end Forms

theorem readUnsigned?_text (readsBack : decimal.ReadsBack number.magnitude)
    (lower : -400 ≤ decimal.exponent) (upper : decimal.exponent ≤ 400) :
    readUnsigned? number.negative decimal.text = some (.finite number) := by
  unfold text
  dsimp only
  by_cases positional : isPositional
      ((decimalDigits decimal.digits).length + decimal.exponent) = true
  · rw [if_pos positional]
    by_cases natural : 0 ≤ decimal.exponent
    · rw [if_pos natural]
      exact readUnsigned?_of_zeros_behind readsBack natural
    · rw [if_neg natural]
      by_cases inside :
          0 < (decimalDigits decimal.digits).length + decimal.exponent
      · rw [if_pos inside]
        exact readUnsigned?_of_point_inside readsBack
          (Int.not_le.mp natural) lower inside
      · rw [if_neg inside]
        exact readUnsigned?_of_zeros_before readsBack lower
          (Int.not_lt.mp inside)
  · rw [if_neg positional]
    cases digitsEq : decimalDigits decimal.digits with
    | nil => exact absurd digitsEq Nat.toDigits_ne_nil
    | cons first others =>
        apply readUnsigned?_of_scientific readsBack lower upper digitsEq
        rw [List.length_cons]
        omega

end Decimal

/-! ## Texts of doubles -/

/-- A text that reads without a sign has none. -/
theorem spanSign_of_readUnsigned? {negative : Bool} {text : List Char}
    {reading : Reading} (read : readUnsigned? negative text = some reading) :
    spanSign text = (false, text) := by
  unfold spanSign
  split
  · nomatch read
  · nomatch read
  · rfl

theorem readDouble?_of_readUnsigned? {negative : Bool} {text : List Char}
    {reading : Reading} (read : readUnsigned? negative text = some reading) :
    readDouble? (if negative then '-' :: text else text) = some reading := by
  unfold readDouble?
  cases negative with
  | true =>
      simp only [if_true, spanSign, read, Option.some_or]
  | false =>
      simp only [Bool.false_eq_true, if_false, spanSign_of_readUnsigned? read,
        read, Option.some_or]

/-- The text of a double reads back as that double. -/
theorem readDouble?_text (number : Binary64) :
    readDouble? number.text = some (.finite number) := by
  have readMagnitude : readUnsigned? number.negative
      (if number.magnitude = 0 then ['0', '.', '0']
        else (Decimal.shortest number.magnitude).text) =
      some (.finite number) := by
    by_cases zero : number.magnitude = 0
    · rw [if_pos zero]
      have readZero : readUnsigned? number.negative ['0', '.', '0'] =
          some (.finite (Binary64.zero number.negative)) := rfl
      rw [readZero, Option.some.injEq, Reading.finite.injEq]
      exact Binary64.eq_of_parts rfl zero.symm
    · rw [if_neg zero]
      obtain ⟨readsBack, lower, upper⟩ := Decimal.shortest_spec
        (Nat.pos_of_ne_zero zero) number.onGrid number.isFinite
      exact Decimal.readUnsigned?_text readsBack lower upper
  exact readDouble?_of_readUnsigned? readMagnitude

/-- The text of a number reads as the double nearest to it. -/
theorem Number.readDouble?_text (number : Number) :
    readDouble? number.text = some number.reading := by
  cases number with
  | integer value => exact readDouble?_integerText value
  | double value => exact TableGateway.readDouble?_text value

end TableGateway
