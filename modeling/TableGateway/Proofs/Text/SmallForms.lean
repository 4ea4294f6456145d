import Mathlib.Data.List.TakeWhile
import TableGateway.Proofs.Text.Lowercase
import TableGateway.Text.Blank

/-!
# What lower case leaves alone

White space and parentheses are their own small forms, and no other letter has
one of them in its small form. So a text is free of parentheses, or of white
space at its ends, exactly when its lower case is (`parenthesis_mem_lowercase`,
`trim_lowercase_eq_iff`). Texts that differ in the case of ASCII letters alone
have the same lower case (`lowercased_toLower`).
-/

namespace TableGateway

/-! ## Single letters -/

/-- The code points of white space and of the opening parenthesis. -/
def markCodes : List Nat :=
  [0x9, 0xA, 0xB, 0xC, 0xD, 0x20, 0x28, 0x85, 0xA0, 0x1680, 0x2000, 0x2001,
    0x2002, 0x2003, 0x2004, 0x2005, 0x2006, 0x2007, 0x2008, 0x2009, 0x200A,
    0x2028, 0x2029, 0x202F, 0x205F, 0x3000]

/-- White space or an opening parenthesis. -/
def IsMark (letter : Char) : Prop :=
  letter.toNat ∈ markCodes

instance (letter : Char) : Decidable (IsMark letter) :=
  inferInstanceAs (Decidable (letter.toNat ∈ markCodes))

theorem isMark_of_isBlank {letter : Char} (blank : isBlank letter = true) :
    IsMark letter := by
  simp only [isBlank, Bool.or_eq_true, Bool.and_eq_true, decide_eq_true_eq,
    beq_iff_eq] at blank
  simp only [IsMark, markCodes, List.mem_cons, List.not_mem_nil, or_false]
  omega

theorem isMark_parenthesis : IsMark '(' := by decide

/-- A mark is its own small form. -/
theorem lowerForm_of_isMark {letter : Char} (mark : IsMark letter) :
    lowerForm letter = [letter] := by
  have each : ∀ code ∈ markCodes,
      lowerForm (Char.ofNat code) = [Char.ofNat code] := by decide +kernel
  have here := each letter.toNat mark
  rwa [Char.ofNat_toNat] at here

theorem ascii_cases {motive : Char → Prop}
    (each : ∀ code < 128, motive (Char.ofNat code)) {letter : Char}
    (ascii : letter.toNat < 128) : motive letter := by
  have here := each letter.toNat ascii
  rwa [Char.ofNat_toNat] at here

/-- A code point that is no mark stands for no mark, whether there is a character
for it or not. -/
theorem not_isMark_ofNat {code : Nat} (unmarked : code ∉ markCodes) :
    ¬IsMark (Char.ofNat code) := by
  unfold IsMark Char.ofNat
  by_cases valid : code.isValidChar
  · rw [dif_pos valid]
    exact unmarked
  · rw [dif_neg valid]
    decide

/-- Where the small form of a letter comes from. -/
theorem lowerForm_cases {motive : Char → List Char → Prop}
    (ascii : ∀ letter : Char, letter.toNat < 128 →
      motive letter [letter.toLower])
    (expanded : ∀ letter, ∀ entry ∈ toLowerExpansions,
      motive letter (entry.2.map Char.ofNat))
    (shifted : ∀ letter : Char, ∀ shift ∈ toLowerTable,
      letter.toNat ≤ shift.span.last → motive letter
        [Char.ofNat (shift.target + (letter.toNat - shift.span.first))])
    (kept : ∀ letter, motive letter [letter]) (letter : Char) :
    motive letter (lowerForm letter) := by
  unfold lowerForm
  by_cases isAscii : letter.toNat < 128
  · rw [if_pos isAscii]
    exact ascii letter isAscii
  · rw [if_neg isAscii, mapCase]
    unfold expansionIn? shiftIn?
    cases expansion : toLowerExpansions.find? (·.1 == letter.toNat) with
    | some entry =>
        exact expanded letter entry (List.mem_of_find?_eq_some expansion)
    | none =>
        cases found : toLowerTable.find?
            (·.span.contains letter.toNat) with
        | some shift =>
            have within := List.find?_some found
            simp only [Span.contains, Bool.and_eq_true,
              decide_eq_true_eq] at within
            exact shifted letter shift (List.mem_of_find?_eq_some found)
              within.1.2
        | none => exact kept letter

theorem lowerForm_ne_nil (letter : Char) : lowerForm letter ≠ [] := by
  refine lowerForm_cases (motive := fun _ form => form ≠ []) ?_ ?_ ?_ ?_
    letter
  · exact fun _ _ => List.cons_ne_nil _ _
  · intro _ entry member
    rw [ne_eq, List.map_eq_nil_iff]
    revert entry
    decide
  · exact fun _ _ _ _ => List.cons_ne_nil _ _
  · exact fun _ => List.cons_ne_nil _ _

/-- No mark is the small form of another letter. -/
theorem not_isMark_of_mem_lowerForm {letter other : Char}
    (unmarked : ¬IsMark letter) (member : other ∈ lowerForm letter) :
    ¬IsMark other := by
  have expansions : ∀ entry ∈ toLowerExpansions, ∀ code ∈ entry.2,
      code ∉ markCodes := by decide
  have shifts : ∀ shift ∈ toLowerTable, ∀ mark ∈ markCodes,
      shift.target + (shift.span.last - shift.span.first) < mark ∨
        mark < shift.target := by decide +kernel
  revert unmarked other
  refine lowerForm_cases (motive := fun letter form =>
    ∀ {other}, ¬IsMark letter → other ∈ form → ¬IsMark other)
    ?ascii ?expanded ?shifted ?kept letter
  case ascii =>
    intro letter isAscii other unmarked member
    rw [List.mem_singleton.mp member]
    revert unmarked
    exact ascii_cases (motive := fun letter =>
      ¬IsMark letter → ¬IsMark letter.toLower) (by decide +kernel) isAscii
  case expanded =>
    intro _ entry listed other _ member
    obtain ⟨code, codeMember, rfl⟩ := List.mem_map.mp member
    exact not_isMark_ofNat (expansions entry listed code codeMember)
  case shifted =>
    intro letter shift listed within other _ member
    rw [List.mem_singleton.mp member]
    apply not_isMark_ofNat
    intro mark
    rcases shifts shift listed _ mark with above | below
    · omega
    · omega
  case kept =>
    intro letter other unmarked member
    rwa [List.mem_singleton.mp member]

/-! ## Letters in context -/

section Between

variable (afterCased beforeCased : Bool) (letter : Char)

theorem formBetween_ne_nil :
    formBetween afterCased beforeCased letter ≠ [] := by
  unfold formBetween
  by_cases isSigma : letter = 'Σ'
  · rw [if_pos isSigma]
    by_cases final : (afterCased && !beforeCased) = true
    · rw [if_pos final]
      exact List.cons_ne_nil _ _
    · rw [if_neg final]
      exact List.cons_ne_nil _ _
  · rw [if_neg isSigma]
    exact lowerForm_ne_nil letter

/-- A letter and the letters of its small form are the same mark or none. -/
theorem mark_of_mem_formBetween {other : Char}
    (member : other ∈ formBetween afterCased beforeCased letter) :
    other = letter ∨ (¬IsMark other ∧ ¬IsMark letter) := by
  unfold formBetween at member
  by_cases isSigma : letter = 'Σ'
  · have isSmall : other = 'ς' ∨ other = 'σ' := by
      rw [if_pos isSigma] at member
      by_cases final : (afterCased && !beforeCased) = true
      · rw [if_pos final] at member
        exact Or.inl (List.mem_singleton.mp member)
      · rw [if_neg final] at member
        exact Or.inr (List.mem_singleton.mp member)
    subst isSigma
    rcases isSmall with rfl | rfl
    · exact Or.inr (by decide)
    · exact Or.inr (by decide)
  · rw [if_neg isSigma] at member
    by_cases mark : IsMark letter
    · rw [lowerForm_of_isMark mark] at member
      exact Or.inl (List.mem_singleton.mp member)
    · exact Or.inr ⟨not_isMark_of_mem_lowerForm mark member, mark⟩

theorem isBlank_of_mem_formBetween {other : Char}
    (member : other ∈ formBetween afterCased beforeCased letter) :
    isBlank other = isBlank letter := by
  rcases mark_of_mem_formBetween _ _ _ member with
    rfl | ⟨otherUnmarked, unmarked⟩
  · rfl
  · have notBlank {single : Char} (unmarked : ¬IsMark single) :
        isBlank single = false :=
      Bool.eq_false_iff.mpr fun blank => unmarked (isMark_of_isBlank blank)
    rw [notBlank otherUnmarked, notBlank unmarked]

theorem parenthesis_mem_formBetween :
    '(' ∈ formBetween afterCased beforeCased letter ↔ letter = '(' := by
  constructor
  · intro member
    rcases mark_of_mem_formBetween _ _ _ member with same | ⟨unmarked, _⟩
    · exact same.symm
    · exact absurd isMark_parenthesis unmarked
  · intro isParenthesis
    subst isParenthesis
    exact List.mem_singleton.mpr rfl

end Between

/-! ## Texts -/

theorem parenthesis_mem_lowercaseWithin (afterCased beforeCased : Bool)
    (text : List Char) :
    '(' ∈ lowercaseWithin afterCased beforeCased text ↔ '(' ∈ text := by
  induction text generalizing afterCased with
  | nil => rfl
  | cons letter rest inductionHypothesis =>
      rw [lowercaseWithin, List.mem_append, parenthesis_mem_formBetween,
        inductionHypothesis, List.mem_cons, eq_comm]

theorem parenthesis_mem_lowercase (text : List Char) :
    '(' ∈ lowercase text ↔ '(' ∈ text := by
  rw [lowercase, lowercaseFrom_eq, parenthesis_mem_lowercaseWithin]

theorem head?_lowercase (text : List Char) :
    (lowercase text).head?.map isBlank = text.head?.map isBlank := by
  rw [lowercase, lowercaseFrom_eq]
  cases text with
  | nil => rfl
  | cons letter rest =>
      rw [lowercaseWithin]
      obtain ⟨head, tail, formEq⟩ := List.exists_cons_of_ne_nil
        (formBetween_ne_nil false ((firstCase? rest).getD false) letter)
      have member : head ∈ formBetween false
          ((firstCase? rest).getD false) letter := by
        rw [formEq]
        exact List.mem_cons_self
      rw [formEq, List.cons_append, List.head?_cons, List.head?_cons,
        Option.map_some, Option.map_some,
        isBlank_of_mem_formBetween _ _ _ member]

theorem getLast?_lowercase (text : List Char) :
    (lowercase text).getLast?.map isBlank =
      text.getLast?.map isBlank := by
  rw [lowercase, lowercaseFrom_eq]
  rcases List.eq_nil_or_concat text with rfl | ⟨before, letter, rfl⟩
  · rfl
  · rw [List.concat_eq_append, lowercaseWithin_append, lowercaseWithin,
      lowercaseWithin, List.append_nil, List.getLast?_concat]
    have present := formBetween_ne_nil ((lastCase? before).getD false)
      ((firstCase? []).getD false) letter
    rw [List.getLast?_append, List.getLast?_eq_some_getLast present,
      Option.some_or, Option.map_some, Option.map_some,
      isBlank_of_mem_formBetween _ _ _ (List.getLast_mem present)]

/-- A text has no white space at either end exactly when trimming leaves it
alone. -/
theorem trim_eq_self_iff {text : List Char} :
    trim text = text ↔
      (∀ letter, text.head? = some letter → isBlank letter = false) ∧
        ∀ letter, text.getLast? = some letter → isBlank letter = false := by
  have atEnd (text : List Char) : trimEnd text = text ↔
      ∀ letter, text.getLast? = some letter → isBlank letter = false := by
    rw [trimEnd, List.reverse_eq_iff, trimStart_eq_self_iff,
      List.head?_reverse]
  rw [← trimStart_eq_self_iff, ← atEnd]
  constructor
  · intro same
    have atStart : trimStart text = text := by
      have prefixed := trimEnd_isPrefix (trimStart text)
      have suffixed : trimStart text <:+ text := List.dropWhile_suffix isBlank
      apply suffixed.eq_of_length_le
      calc text.length = (trim text).length := by rw [same]
        _ ≤ (trimStart text).length := prefixed.length_le
    refine ⟨atStart, ?_⟩
    rwa [trim, atStart] at same
  · intro both
    rw [trim, both.1, both.2]

theorem trim_lowercase_eq_iff (text : List Char) :
    trim (lowercase text) = lowercase text ↔ trim text = text := by
  have told (first : Option Char) :
      (∀ letter, first = some letter → isBlank letter = false) ↔
        first.map isBlank ≠ some true := by
    cases first with
    | none => simp
    | some letter => simp
  rw [trim_eq_self_iff, trim_eq_self_iff, told, told, told, told,
    head?_lowercase, getLast?_lowercase]

/-! ## Texts that differ in the case of ASCII letters -/

/-- Only capital letters of ASCII differ from their small letters there. -/
theorem toLower_eq_or_capital (letter : Char) :
    letter.toLower = letter ∨
      ∃ place < 26, letter = Char.ofNat (0x41 + place) := by
  unfold Char.toLower
  by_cases capital : letter.val ≥ 'A'.val ∧ letter.val ≤ 'Z'.val
  · have lower : 0x41 ≤ letter.toNat := UInt32.le_iff_toNat_le.mp capital.1
    have upper : letter.toNat ≤ 0x5A := UInt32.le_iff_toNat_le.mp capital.2
    refine Or.inr ⟨letter.toNat - 0x41, by omega, ?_⟩
    rw [Nat.add_sub_cancel' lower, Char.ofNat_toNat]
  · exact Or.inl (dif_neg capital)

/-- What tells no capital letter of ASCII from its small letter tells no letter
from it. -/
theorem toLower_congr {value : Type*} (read : Char → value)
    (capitals : ∀ place < 26, read (Char.ofNat (0x41 + place)).toLower =
      read (Char.ofNat (0x41 + place)))
    (letter : Char) : read letter.toLower = read letter := by
  rcases toLower_eq_or_capital letter with same | ⟨place, bound, rfl⟩
  · rw [same]
  · exact capitals place bound

theorem isCaseIgnorable_toLower (letter : Char) :
    isCaseIgnorable letter.toLower = isCaseIgnorable letter :=
  toLower_congr isCaseIgnorable (by decide +kernel) letter

theorem isCased_toLower (letter : Char) :
    isCased letter.toLower = isCased letter :=
  toLower_congr isCased (by decide +kernel) letter

theorem lowerForm_toLower (letter : Char) :
    lowerForm letter.toLower = lowerForm letter :=
  toLower_congr lowerForm (by decide +kernel) letter

theorem toLower_eq_sigma_iff (letter : Char) :
    letter.toLower = 'Σ' ↔ letter = 'Σ' :=
  decide_eq_decide.mp
    (toLower_congr (fun letter => decide (letter = 'Σ')) (by decide) letter)

theorem casedFollows_map_toLower (text : List Char) :
    casedFollows (text.map Char.toLower) = casedFollows text := by
  induction text with
  | nil => rfl
  | cons letter rest inductionHypothesis =>
      rw [List.map_cons, casedFollows, casedFollows,
        isCaseIgnorable_toLower, isCased_toLower, inductionHypothesis]

theorem lowercaseFrom_map_toLower (afterCased : Bool) (text : List Char) :
    lowercaseFrom afterCased (text.map Char.toLower) =
      lowercaseFrom afterCased text := by
  induction text generalizing afterCased with
  | nil => rfl
  | cons letter rest inductionHypothesis =>
      rw [List.map_cons, lowercaseFrom, lowercaseFrom,
        isCaseIgnorable_toLower, isCased_toLower, lowerForm_toLower,
        casedFollows_map_toLower, inductionHypothesis]
      simp only [toLower_eq_sigma_iff]

/-- The case of ASCII letters does not matter. -/
theorem lowercased_toLower (text : String) :
    lowercased text.toLower = lowercased text := by
  have lettersEq : text.toLower.toList = text.toList.map Char.toLower :=
    String.toList_map
  rw [lowercased, lowercased, lettersEq, lowercase,
    lowercaseFrom_map_toLower, lowercase]

end TableGateway
