import TableGateway.Json.Parser
import TableGateway.Proofs.Numeric.RoundTrip
import TableGateway.Proofs.Text.Legible

/-!
# The text of a number is a token

A token of strict JSON is read from its own text, whatever follows that does not
go on with the number (`JsonText.number?_written`). The text of every number,
whole or double, is the text of such a token (`Number.exists_token`), and so it is
read as one (`JsonText.number?_text`).
-/

namespace TableGateway

/-- One or more digits. -/
structure IsDigits (text : List Char) : Prop where
  nonempty : text ≠ []
  digits : ∀ letter ∈ text, letter.isDigit = true

/-- A letter that a number can go on with. -/
def isNumberLetter (letter : Char) : Bool :=
  letter.isDigit || letter == '.' || letter == 'e' || letter == 'E'

theorem not_isNumberLetter_iff {letter : Char} :
    isNumberLetter letter = false ↔
      letter.isDigit = false ∧ letter ≠ '.' ∧ letter ≠ 'e' ∧ letter ≠ 'E' := by
  simp [isNumberLetter, and_assoc]

/-! ## Tokens and their texts -/

namespace NumberToken

def fractionText : Option (List Char) → List Char
  | none => []
  | some digits => '.' :: digits

/-- The text of an exponent, always with a sign. -/
def exponentText : Option (Bool × List Char) → List Char
  | none => []
  | some (negative, digits) =>
      'e' :: (if negative then '-' else '+') :: digits

/-- The text of a token. -/
def written (token : NumberToken) : List Char :=
  (if token.negative then ['-'] else []) ++ (token.whole ++
    (fractionText token.fraction ++ exponentText token.exponent))

/-- A token of strict JSON: digits wherever there are to be some, and no zero in
front of others. -/
structure IsStrict (token : NumberToken) : Prop where
  whole : IsDigits token.whole
  noLeadingZero : token.whole = ['0'] ∨ token.whole.head? ≠ some '0'
  fraction : ∀ digits, token.fraction = some digits → IsDigits digits
  exponent : ∀ negative digits, token.exponent = some (negative, digits) →
    IsDigits digits

end NumberToken

/-! ## Reading a token -/

namespace JsonText

open NumberToken (fractionText exponentText)

variable {token : NumberToken} {rest : List Char}

theorem digits?_append {digits : List Char} (isDigits : IsDigits digits)
    (stops : Stops Char.isDigit rest) :
    digits? (digits ++ rest) = some (digits, rest) := by
  rw [digits?, spanDigits_append isDigits.digits stops]
  cases given : digits with
  | nil => exact absurd given isDigits.nonempty
  | cons first others => rfl

theorem whole?_append (strict : token.IsStrict)
    (stops : Stops Char.isDigit rest) :
    whole? (token.whole ++ rest) = some (token.whole, rest) := by
  rcases strict.noLeadingZero with zero | noZero
  · have ends : rest.takeWhile Char.isDigit = [] := by
      cases rest with
      | nil => rfl
      | cons head tail =>
          exact List.takeWhile_cons_of_neg (by simp [stops head rfl])
    rw [zero]
    simp [whole?, ends]
  · have read := digits?_append strict.whole stops
    cases given : token.whole with
    | nil => exact absurd given strict.whole.nonempty
    | cons first others =>
        rw [given] at noZero read
        rw [whole?]
        · exact read
        · rintro _ ⟨⟩
          exact noZero rfl

theorem stops_exponentText {test : Char → Bool} (mark : test 'e' = false)
    (stops : Stops test rest) (exponent : Option (Bool × List Char)) :
    Stops test (exponentText exponent ++ rest) := by
  cases exponent with
  | none => exact stops
  | some parts => exact stops_cons mark _

theorem stops_fractionText {test : Char → Bool} (point : test '.' = false)
    (stops : Stops test rest) (fraction : Option (List Char)) :
    Stops test (fractionText fraction ++ rest) := by
  cases fraction with
  | none => exact stops
  | some digits => exact stops_cons point _

theorem fraction?_append (strict : token.IsStrict)
    (stops : Stops Char.isDigit rest) (noPoint : Stops (· == '.') rest) :
    fraction? (fractionText token.fraction ++ rest) =
      some (token.fraction, rest) := by
  cases given : token.fraction with
  | none =>
      cases rest with
      | nil => rfl
      | cons head tail =>
          have different : head ≠ '.' := by
            simpa using noPoint head rfl
          rw [fractionText, List.nil_append, fraction?]
          rintro _ ⟨⟩
          exact different rfl
  | some digits =>
      have read := digits?_append (strict.fraction digits given) stops
      rw [fractionText, List.cons_append, fraction?, read]
      rfl

theorem exponent?_append (strict : token.IsStrict)
    (stops : Stops isNumberLetter rest) :
    exponent? (exponentText token.exponent ++ rest) =
      some (token.exponent, rest) := by
  cases given : token.exponent with
  | none =>
      cases rest with
      | nil => rfl
      | cons head tail =>
          have fails := not_isNumberLetter_iff.mp (stops head rfl)
          rw [exponentText, List.nil_append, exponent?,
            if_neg (not_or.mpr fails.2.2)]
  | some parts =>
      obtain ⟨negative, digits⟩ := parts
      have noDigit : Stops Char.isDigit rest := fun letter first =>
        (not_isNumberLetter_iff.mp (stops letter first)).1
      have read := digits?_append (strict.exponent _ digits given) noDigit
      cases negative <;> simp [exponentText, exponent?, spanSign, read]

theorem minus_written (strict : token.IsStrict) :
    minus (token.written ++ rest) =
      (token.negative, token.whole ++ (fractionText token.fraction ++
        (exponentText token.exponent ++ rest))) := by
  unfold NumberToken.written
  cases token.negative with
  | true => simp [minus]
  | false =>
      cases given : token.whole with
      | nil => exact absurd given strict.whole.nonempty
      | cons first others =>
          have isDigit : first.isDigit = true :=
            strict.whole.digits first (by simp [given])
          rw [if_neg (by decide), List.nil_append, List.cons_append,
            List.cons_append, minus]
          · simp
          · rintro _ ⟨⟩
            exact absurd isDigit (by decide)

/-- A strict token is read from its text. -/
theorem number?_written (strict : token.IsStrict)
    (stops : Stops isNumberLetter rest) :
    number? (token.written ++ rest) = some (token, rest) := by
  have noDigit : Stops Char.isDigit rest := fun letter first =>
    (not_isNumberLetter_iff.mp (stops letter first)).1
  have noPoint : Stops (· == '.') rest := fun letter first => by
    simpa using (not_isNumberLetter_iff.mp (stops letter first)).2.1
  have noDigitBehind : Stops Char.isDigit
      (exponentText token.exponent ++ rest) :=
    stops_exponentText (by decide) noDigit token.exponent
  have noPointBehind : Stops (· == '.')
      (exponentText token.exponent ++ rest) :=
    stops_exponentText (by decide) noPoint token.exponent
  have wholeRead := whole?_append strict
    (stops_fractionText (by decide) noDigitBehind token.fraction)
  have fractionRead := fraction?_append strict noDigitBehind noPointBehind
  have exponentRead := exponent?_append strict stops
  rw [number?, minus_written strict]
  simp [wholeRead, fractionRead, exponentRead]

end JsonText

/-! ## Texts of numbers -/

theorem isDigits_decimalDigits (number : Nat) :
    IsDigits (decimalDigits number) :=
  ⟨Nat.toDigits_ne_nil, all_isDigit_decimalDigits number⟩

theorem isDigits_singleton {letter : Char} (isDigit : letter.isDigit = true) :
    IsDigits [letter] :=
  ⟨List.cons_ne_nil _ _, List.forall_mem_singleton.mpr isDigit⟩

theorem head?_decimalDigits {number : Nat} (positive : 0 < number) :
    (decimalDigits number).head? ≠ some '0' := by
  unfold decimalDigits
  induction number using Nat.strongRecOn with
  | ind number inductionHypothesis =>
      by_cases small : number < 10
      · have nonzero : ∀ digit < 10, 0 < digit →
            Nat.digitChar digit ≠ '0' := by decide
        rw [Nat.toDigits_of_lt_base small]
        simpa using nonzero number small positive
      · have quotientHead := inductionHypothesis (number / 10)
          (Nat.div_lt_self positive (by decide))
          (Nat.div_pos (Nat.not_lt.mp small) (by decide))
        rw [Nat.toDigits_of_base_le (by decide) (Nat.not_lt.mp small),
          List.head?_append, Option.or_of_isSome (by simp)]
        exact quotientHead

namespace NumberToken

/-- A strict token stays strict with another sign. -/
theorem IsStrict.withSign {token : NumberToken} (strict : token.IsStrict)
    (negative : Bool) : { token with negative }.IsStrict :=
  ⟨strict.whole, strict.noLeadingZero, strict.fraction, strict.exponent⟩

theorem written_withSign {token : NumberToken} (unsigned : token.negative = false)
    (negative : Bool) :
    { token with negative }.written =
      if negative then '-' :: token.written else token.written := by
  cases negative <;> simp [written, unsigned]

end NumberToken

/-- The text of a strict token without a sign. -/
def IsUnsignedText (text : List Char) : Prop :=
  ∃ token : NumberToken, token.IsStrict ∧ token.negative = false ∧
    token.written = text

namespace Decimal

open NumberToken (fractionText exponentText)

section Forms

variable {decimal : Decimal} {first : Char} {others : List Char}
  (digitsEq : decimalDigits decimal.digits = first :: others)

include digitsEq

theorem isDigit_of_mem_digits :
    ∀ letter ∈ first :: others, letter.isDigit = true :=
  digitsEq ▸ all_isDigit_decimalDigits decimal.digits

/-- The first digit of a positive decimal begins a strict token. -/
theorem isStrict_of_digits (positive : 0 < decimal.digits)
    {behind : List Char} {fraction : Option (List Char)}
    {exponent : Option (Bool × List Char)}
    (behindDigits : ∀ letter ∈ behind, letter.isDigit = true)
    (fractionDigits : ∀ digits, fraction = some digits → IsDigits digits)
    (exponentDigits : ∀ negative digits, exponent = some (negative, digits) →
      IsDigits digits) :
    NumberToken.IsStrict ⟨false, first :: behind, fraction, exponent⟩ := by
  have noZero := head?_decimalDigits positive
  have allDigits := isDigit_of_mem_digits digitsEq
  rw [digitsEq] at noZero
  refine ⟨⟨List.cons_ne_nil _ _, ?_⟩, Or.inr noZero, fractionDigits,
    exponentDigits⟩
  intro letter member
  rcases List.mem_cons.mp member with rfl | inBehind
  · exact allDigits _ List.mem_cons_self
  · exact behindDigits letter inBehind

/-- Digits with zeros behind them. -/
theorem isUnsignedText_of_zeros_behind (positive : 0 < decimal.digits)
    (count : Nat) :
    IsUnsignedText
      (first :: others ++ List.replicate count '0' ++ ['.', '0']) := by
  refine ⟨⟨false, first :: (others ++ List.replicate count '0'), some ['0'],
    none⟩, isStrict_of_digits digitsEq positive ?_ ?_ nofun, rfl, ?_⟩
  · intro letter member
    rcases List.mem_append.mp member with inOthers | inZeros
    · exact isDigit_of_mem_digits digitsEq letter (by simp [inOthers])
    · exact isDigit_of_mem_replicate_zero inZeros
  · rintro _ ⟨⟩
    exact isDigits_singleton rfl
  · simp [NumberToken.written, fractionText, exponentText]

/-- Digits with a point among them. -/
theorem isUnsignedText_of_point_inside (positive : 0 < decimal.digits)
    {place : Nat} (inside : 0 < place) (short : place ≤ others.length) :
    IsUnsignedText ((first :: others).take place ++
      '.' :: (first :: others).drop place) := by
  obtain ⟨before, rfl⟩ : ∃ before, place = before + 1 :=
    ⟨place - 1, by omega⟩
  have othersDigits : ∀ letter ∈ others, letter.isDigit = true :=
    fun letter member =>
      isDigit_of_mem_digits digitsEq letter (by simp [member])
  rw [List.take_succ_cons, List.drop_succ_cons]
  refine ⟨⟨false, first :: others.take before, some (others.drop before),
    none⟩, isStrict_of_digits digitsEq positive ?_ ?_ nofun, rfl, ?_⟩
  · exact fun letter member =>
      othersDigits letter (List.mem_of_mem_take member)
  · rintro _ ⟨⟩
    refine ⟨?_, fun letter member =>
      othersDigits letter (List.mem_of_mem_drop member)⟩
    rw [ne_eq, List.drop_eq_nil_iff]
    omega
  · simp [NumberToken.written, fractionText, exponentText]

/-- Digits behind a point and zeros. -/
theorem isUnsignedText_of_zeros_before (count : Nat) :
    IsUnsignedText
      ('0' :: '.' :: List.replicate count '0' ++ first :: others) := by
  refine ⟨⟨false, ['0'], some (List.replicate count '0' ++ first :: others),
    none⟩, ⟨isDigits_singleton rfl, Or.inl rfl, ?_, nofun⟩, rfl, ?_⟩
  · rintro _ ⟨⟩
    refine ⟨by simp, fun letter member => ?_⟩
    rcases List.mem_append.mp member with inZeros | inDigits
    · exact isDigit_of_mem_replicate_zero inZeros
    · exact isDigit_of_mem_digits digitsEq letter inDigits
  · simp [NumberToken.written, fractionText, exponentText]

/-- Digits with a point behind the first, and an exponent. -/
theorem isUnsignedText_of_scientific (positive : 0 < decimal.digits)
    (power : Int) :
    IsUnsignedText
      ((match first :: others with
        | first :: second :: rest => first :: '.' :: second :: rest
        | short => short) ++
        'e' :: (if power < 0 then '-' else '+') ::
          decimalDigits power.natAbs) := by
  have powerDigits : ∀ negative digits,
      some (decide (power < 0), decimalDigits power.natAbs) =
        some (negative, digits) → IsDigits digits := by
    rintro _ _ ⟨⟩
    exact isDigits_decimalDigits _
  cases others with
  | nil =>
      refine ⟨⟨false, [first], none, some _⟩,
        isStrict_of_digits digitsEq positive nofun nofun powerDigits, rfl, ?_⟩
      simp [NumberToken.written, fractionText, exponentText]
  | cons second rest =>
      refine ⟨⟨false, [first], some (second :: rest), some _⟩,
        isStrict_of_digits digitsEq positive nofun ?_ powerDigits, rfl, ?_⟩
      · rintro _ ⟨⟩
        exact ⟨List.cons_ne_nil _ _, fun letter member =>
          isDigit_of_mem_digits digitsEq letter (by simp [member])⟩
      · simp [NumberToken.written, fractionText, exponentText]

end Forms

/-- The text of a positive decimal is that of a strict token without a sign. -/
theorem isUnsignedText_text {decimal : Decimal}
    (positive : 0 < decimal.digits) : IsUnsignedText decimal.text := by
  unfold text
  dsimp only
  cases digitsEq : decimalDigits decimal.digits with
  | nil => exact absurd digitsEq Nat.toDigits_ne_nil
  | cons first others =>
      by_cases positional : isPositional
          ((first :: others).length + decimal.exponent) = true
      · rw [if_pos positional]
        by_cases natural : 0 ≤ decimal.exponent
        · rw [if_pos natural]
          exact isUnsignedText_of_zeros_behind digitsEq positive _
        · rw [if_neg natural]
          by_cases inside : 0 < (first :: others).length + decimal.exponent
          · rw [if_pos inside]
            rw [List.length_cons] at inside ⊢
            exact isUnsignedText_of_point_inside digitsEq positive
              (by omega) (by omega)
          · rw [if_neg inside]
            exact isUnsignedText_of_zeros_before digitsEq _
      · rw [if_neg positional]
        exact isUnsignedText_of_scientific digitsEq positive _

end Decimal

namespace Number

/-- The text of a number is the text of a strict token. -/
theorem exists_token (value : Number) :
    ∃ token : NumberToken, token.IsStrict ∧ token.written = value.text := by
  cases value with
  | integer value =>
      have noLeadingZero : decimalDigits value.natAbs = ['0'] ∨
          (decimalDigits value.natAbs).head? ≠ some '0' := by
        by_cases zero : value.natAbs = 0
        · exact Or.inl (by rw [zero]; rfl)
        · exact Or.inr (head?_decimalDigits (Nat.pos_of_ne_zero zero))
      refine ⟨⟨value < 0, decimalDigits value.natAbs, none, none⟩,
        ⟨isDigits_decimalDigits _, noLeadingZero, nofun, nofun⟩, ?_⟩
      by_cases negative : value < 0 <;>
        simp [NumberToken.written, NumberToken.fractionText,
          NumberToken.exponentText, text, integerText, negative]
  | double value =>
      have unsigned : IsUnsignedText
          (if value.magnitude = 0 then ['0', '.', '0']
          else (Decimal.shortest value.magnitude).text) := by
        by_cases zero : value.magnitude = 0
        · have zeroDigits : IsDigits ['0'] := isDigits_singleton rfl
          rw [if_pos zero]
          exact ⟨⟨false, ['0'], some ['0'], none⟩,
            ⟨zeroDigits, Or.inl rfl, by rintro _ ⟨⟩; exact zeroDigits, nofun⟩,
            rfl, rfl⟩
        · obtain ⟨readsBack, _⟩ := Decimal.shortest_spec
            (Nat.pos_of_ne_zero zero) value.onGrid value.isFinite
          rw [if_neg zero]
          exact Decimal.isUnsignedText_text readsBack.positive
      obtain ⟨token, strict, noSign, writtenEq⟩ := unsigned
      refine ⟨_, strict.withSign value.negative, ?_⟩
      rw [NumberToken.written_withSign noSign, writtenEq]
      rfl

/-- The token that the text of a number is. -/
def token (value : Number) : NumberToken :=
  match JsonText.number? value.text with
  | some (found, _) => found
  | none => ⟨false, [], none, none⟩

end Number

theorem JsonText.number?_text (value : Number) {rest : List Char}
    (stops : Stops isNumberLetter rest) :
    number? (value.text ++ rest) = some (value.token, rest) := by
  obtain ⟨token, strict, writtenEq⟩ := value.exists_token
  have tokenEq : value.token = token := by
    have noRest : Stops isNumberLetter [] := nofun
    have read := number?_written strict noRest
    rw [List.append_nil, writtenEq] at read
    rw [Number.token, read]
  rw [tokenEq, ← writtenEq]
  exact number?_written strict stops

end TableGateway
