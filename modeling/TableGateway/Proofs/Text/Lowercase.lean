import Mathlib.Data.List.TakeWhile
import TableGateway.Text.Casing

/-!
# Lower case in context

The capital sigma is the one letter whose small form hangs on its neighbours. A
text whose sigmas are settled by neighbours of its own has the same small form
wherever it stands, and only such a text has: the main statement is
`lowercase_infix_iff`.
-/

namespace TableGateway

/-! ## Neighbours that count for case -/

/-- Whether the first character that counts for case has one, if any counts. -/
def firstCase? (text : List Char) : Option Bool :=
  (text.find? (!isCaseIgnorable ·)).map isCased

/-- Whether the last character that counts for case has one, if any counts. -/
def lastCase? (text : List Char) : Option Bool :=
  firstCase? text.reverse

theorem casedFollows_eq (text : List Char) :
    casedFollows text = (firstCase? text).getD false := by
  induction text with
  | nil => rfl
  | cons letter rest inductionHypothesis =>
      rw [casedFollows, inductionHypothesis, firstCase?, firstCase?,
        List.find?_cons]
      cases isCaseIgnorable letter <;> rfl

theorem firstCase?_cons (letter : Char) (rest : List Char) :
    firstCase? (letter :: rest) =
      if isCaseIgnorable letter then firstCase? rest
      else some (isCased letter) := by
  rw [firstCase?, firstCase?, List.find?_cons]
  cases isCaseIgnorable letter <;> rfl

theorem firstCase?_append (left right : List Char) :
    firstCase? (left ++ right) = (firstCase? left).or (firstCase? right) := by
  simp [firstCase?, List.find?_append, Option.map_or]

theorem lastCase?_cons (letter : Char) (rest : List Char) :
    lastCase? (letter :: rest) =
      (lastCase? rest).or
        (if isCaseIgnorable letter then none
        else some (isCased letter)) := by
  rw [lastCase?, List.reverse_cons, firstCase?_append, firstCase?_cons]
  rfl

theorem firstCase?_eq_none_iff {text : List Char} :
    firstCase? text = none ↔
      ∀ letter ∈ text, isCaseIgnorable letter = true := by
  simp [firstCase?]

theorem lastCase?_eq_none_iff {text : List Char} :
    lastCase? text = none ↔
      ∀ letter ∈ text, isCaseIgnorable letter = true := by
  simp [lastCase?, firstCase?_eq_none_iff]

theorem isCaseIgnorable_sigma : isCaseIgnorable 'Σ' = false := by
  decide +kernel

theorem isCased_sigma : isCased 'Σ' = true := by decide

/-! ## Lower case of a part -/

/-- The small form of a letter, where `afterCased` and `beforeCased` tell whether
the nearest letters that count for case have one. -/
def formBetween (afterCased beforeCased : Bool) (letter : Char) :
    List Char :=
  if letter = 'Σ' then if afterCased && !beforeCased then ['ς'] else ['σ']
  else lowerForm letter

/-- Lower case of a part of a text, by what stands before it and behind it. -/
def lowercaseWithin (afterCased beforeCased : Bool) :
    List Char → List Char
  | [] => []
  | letter :: rest =>
      formBetween afterCased ((firstCase? rest).getD beforeCased) letter ++
        lowercaseWithin
          (if isCaseIgnorable letter then afterCased else isCased letter)
          beforeCased rest

theorem lowercaseFrom_eq (afterCased : Bool) (text : List Char) :
    lowercaseFrom afterCased text = lowercaseWithin afterCased false text := by
  induction text generalizing afterCased with
  | nil => rfl
  | cons letter rest inductionHypothesis =>
      rw [lowercaseFrom, lowercaseWithin, inductionHypothesis,
        casedFollows_eq]
      rfl

theorem lowercaseWithin_append (afterCased beforeCased : Bool)
    (left right : List Char) :
    lowercaseWithin afterCased beforeCased (left ++ right) =
      lowercaseWithin afterCased ((firstCase? right).getD beforeCased) left ++
        lowercaseWithin ((lastCase? left).getD afterCased) beforeCased
          right := by
  induction left generalizing afterCased with
  | nil => rfl
  | cons letter rest inductionHypothesis =>
      have before : (lastCase? (letter :: rest)).getD afterCased =
          (lastCase? rest).getD
            (if isCaseIgnorable letter then afterCased
            else isCased letter) := by
        rw [lastCase?_cons]
        cases lastCase? rest <;> cases isCaseIgnorable letter <;> rfl
      have behind : (firstCase? (rest ++ right)).getD beforeCased =
          (firstCase? rest).getD
            ((firstCase? right).getD beforeCased) := by
        rw [firstCase?_append]
        cases firstCase? rest <;> rfl
      rw [List.cons_append, lowercaseWithin, lowercaseWithin,
        inductionHypothesis, before, behind, List.append_assoc]

theorem lowercase_append (left middle right : List Char) :
    lowercase (left ++ (middle ++ right)) =
      lowercaseWithin false ((firstCase? (middle ++ right)).getD false) left ++
        (lowercaseWithin ((lastCase? left).getD false)
            ((firstCase? right).getD false) middle ++
          lowercaseWithin
            ((lastCase? middle).getD ((lastCase? left).getD false)) false
              right) := by
  rw [lowercase, lowercaseFrom_eq, lowercaseWithin_append,
    lowercaseWithin_append]

/-- The small forms of a part are the same in two places when those of its
sigmas are. -/
theorem lowercaseWithin_congr {text : List Char}
    {afterCased beforeCased otherAfter otherBefore : Bool}
    (same : ∀ before behind, text = before ++ 'Σ' :: behind →
      formBetween ((lastCase? before).getD afterCased)
          ((firstCase? behind).getD beforeCased) 'Σ' =
        formBetween ((lastCase? before).getD otherAfter)
          ((firstCase? behind).getD otherBefore) 'Σ') :
    lowercaseWithin afterCased beforeCased text =
      lowercaseWithin otherAfter otherBefore text := by
  induction text generalizing afterCased otherAfter with
  | nil => rfl
  | cons letter rest inductionHypothesis =>
      have restEq :
          lowercaseWithin
              (if isCaseIgnorable letter then afterCased
              else isCased letter) beforeCased rest =
            lowercaseWithin
              (if isCaseIgnorable letter then otherAfter
              else isCased letter) otherBefore rest := by
        apply inductionHypothesis
        rintro before behind rfl
        have here := same (letter :: before) behind rfl
        rw [lastCase?_cons] at here
        revert here
        cases lastCase? before <;> cases isCaseIgnorable letter <;> exact id
      have hereEq :
          formBetween afterCased ((firstCase? rest).getD beforeCased)
              letter =
            formBetween otherAfter ((firstCase? rest).getD otherBefore)
              letter := by
        by_cases isSigma : letter = 'Σ'
        · subst isSigma
          exact same [] rest rfl
        · simp [formBetween, isSigma]
      rw [lowercaseWithin, lowercaseWithin, hereEq, restEq]

/-- The form of a sigma is settled by the letters around it, whatever stands
before them and behind them. -/
def IsSettled (before behind : List Char) : Prop :=
  lastCase? before = some false ∨ firstCase? behind = some true ∨
    (lastCase? before = some true ∧ firstCase? behind = some false)

instance (before behind : List Char) : Decidable (IsSettled before behind) :=
  inferInstanceAs (Decidable (_ ∨ _ ∨ (_ ∧ _)))

/-- All sigmas of a text are settled by letters of the text. -/
def SigmasSettled (text : List Char) : Prop :=
  ∀ before behind, text = before ++ 'Σ' :: behind → IsSettled before behind

theorem lowercaseWithin_of_settled {text : List Char}
    (settled : SigmasSettled text)
    (afterCased beforeCased otherAfter otherBefore : Bool) :
    lowercaseWithin afterCased beforeCased text =
      lowercaseWithin otherAfter otherBefore text := by
  apply lowercaseWithin_congr
  intro before behind split
  rcases settled before behind split with
    uncased | cased | ⟨cased, uncased⟩
  · simp [uncased, formBetween]
  · simp [cased, formBetween]
  · simp [cased, uncased]

/-- A text without case has no sigma, so that its neighbours do not matter. -/
theorem lowercaseWithin_of_ignorable {text : List Char}
    (ignorable : ∀ letter ∈ text, isCaseIgnorable letter = true)
    (afterCased beforeCased otherAfter otherBefore : Bool) :
    lowercaseWithin afterCased beforeCased text =
      lowercaseWithin otherAfter otherBefore text := by
  apply lowercaseWithin_of_settled
  rintro before behind rfl
  have sigma := ignorable 'Σ' (by simp)
  rw [isCaseIgnorable_sigma] at sigma
  cases sigma

/-! ## Parts that are lowered alike everywhere -/

/-- The small form of a text with a sigma in it. -/
theorem lowercaseWithin_sigma (afterCased beforeCased : Bool)
    (before behind : List Char) :
    lowercaseWithin afterCased beforeCased (before ++ 'Σ' :: behind) =
      lowercaseWithin afterCased true before ++
        (formBetween ((lastCase? before).getD afterCased)
            ((firstCase? behind).getD beforeCased) 'Σ' ++
          lowercaseWithin true beforeCased behind) := by
  have sigmaCase : firstCase? ('Σ' :: behind) = some true := by
    rw [firstCase?_cons, isCaseIgnorable_sigma, isCased_sigma]
    rfl
  rw [lowercaseWithin_append, sigmaCase, lowercaseWithin,
    isCaseIgnorable_sigma, isCased_sigma]
  rfl

/-- A text is no part of one in which one of its letters has been replaced. -/
theorem not_infix_of_replaced {letter other : Char}
    (different : other ≠ letter) {left right : List Char}
    (notLeft : letter ∉ left) (notRight : letter ∉ right)
    (before behind : List Char) :
    ¬(before ++ letter :: behind) <:+:
      (left ++ ((before ++ other :: behind) ++ right)) := by
  intro occurs
  have counts := occurs.sublist.count_le letter
  simp only [List.count_append, List.count_cons_self,
    List.count_cons_of_ne different, List.count_eq_zero.mpr notLeft,
    List.count_eq_zero.mpr notRight] at counts
  omega

theorem lowercaseWithin_letter (afterCased beforeCased : Bool) :
    lowercaseWithin afterCased beforeCased ['a'] = ['a'] := rfl

theorem firstCase?_letter : firstCase? ['a'] = some true := by
  decide +kernel

theorem lastCase?_letter : lastCase? ['a'] = some true := by
  decide +kernel

section Unsettled

variable {before behind : List Char}

/-- A sigma that begins a word of a text ends a word behind a letter. -/
theorem not_infix_behind_letter (isOpen : lastCase? before = none)
    (uncased : (firstCase? behind).getD false = false) :
    ¬lowercase (before ++ 'Σ' :: behind) <:+:
      lowercase (['a'] ++ ((before ++ 'Σ' :: behind) ++ [])) := by
  have beforeEq : lowercaseWithin false true before =
      lowercaseWithin true true before :=
    lowercaseWithin_of_ignorable (lastCase?_eq_none_iff.mp isOpen) ..
  have alone : lowercase (before ++ 'Σ' :: behind) =
      lowercaseWithin true true before ++
        'σ' :: lowercaseWithin true false behind := by
    rw [lowercase, lowercaseFrom_eq, lowercaseWithin_sigma, isOpen, beforeEq]
    rfl
  have inside : lowercase (['a'] ++ ((before ++ 'Σ' :: behind) ++ [])) =
      ['a'] ++ ((lowercaseWithin true true before ++
        'ς' :: lowercaseWithin true false behind) ++ []) := by
    have nothing : firstCase? [] = none := rfl
    rw [lowercase_append, lowercaseWithin_letter, lastCase?_letter, nothing,
      Option.getD_none, Option.getD_some, lowercaseWithin_sigma, isOpen,
      uncased]
    rfl
  rw [alone, inside]
  exact not_infix_of_replaced (by decide) (by decide) (by decide) _ _

/-- A sigma that ends a word of a text is inside a word before a letter. -/
theorem not_infix_before_letter (cased : lastCase? before = some true)
    (isOpen : firstCase? behind = none) :
    ¬lowercase (before ++ 'Σ' :: behind) <:+:
      lowercase ([] ++ ((before ++ 'Σ' :: behind) ++ ['a'])) := by
  have behindEq : lowercaseWithin true true behind =
      lowercaseWithin true false behind :=
    lowercaseWithin_of_ignorable (firstCase?_eq_none_iff.mp isOpen) ..
  have alone : lowercase (before ++ 'Σ' :: behind) =
      lowercaseWithin false true before ++
        'ς' :: lowercaseWithin true false behind := by
    rw [lowercase, lowercaseFrom_eq, lowercaseWithin_sigma, cased, isOpen]
    rfl
  have inside : lowercase ([] ++ ((before ++ 'Σ' :: behind) ++ ['a'])) =
      [] ++ ((lowercaseWithin false true before ++
        'σ' :: lowercaseWithin true false behind) ++ ['a']) := by
    have nothing : lastCase? [] = none := rfl
    rw [lowercase_append, lowercaseWithin_letter, firstCase?_letter, nothing,
      Option.getD_none, Option.getD_some, lowercaseWithin_sigma, cased,
      isOpen, behindEq]
    rfl
  rw [alone, inside]
  exact not_infix_of_replaced (by decide) (by decide) (by decide) _ _

theorem exists_not_infix_of_not_settled (unsettled : ¬IsSettled before behind) :
    ∃ left right,
      ¬lowercase (before ++ 'Σ' :: behind) <:+:
        lowercase (left ++ ((before ++ 'Σ' :: behind) ++ right)) := by
  obtain ⟨notUncased, notCased, notBoth⟩ :
      lastCase? before ≠ some false ∧ firstCase? behind ≠ some true ∧
        ¬(lastCase? before = some true ∧ firstCase? behind = some false) :=
    ⟨fun holds => unsettled (.inl holds),
      fun holds => unsettled (.inr (.inl holds)),
      fun holds => unsettled (.inr (.inr holds))⟩
  cases beforeCase : lastCase? before with
  | none =>
      have uncased : (firstCase? behind).getD false = false := by
        cases behindCase : firstCase? behind with
        | none => rfl
        | some cased =>
            cases cased with
            | false => rfl
            | true => exact absurd behindCase notCased
      exact ⟨_, _, not_infix_behind_letter beforeCase uncased⟩
  | some cased =>
      cases cased with
      | false => exact absurd beforeCase notUncased
      | true =>
          have isOpen : firstCase? behind = none := by
            cases behindCase : firstCase? behind with
            | none => rfl
            | some cased =>
                cases cased with
                | false => exact absurd ⟨beforeCase, behindCase⟩ notBoth
                | true => exact absurd behindCase notCased
          exact ⟨_, _, not_infix_before_letter beforeCase isOpen⟩

end Unsettled

/-- A part is found in lower case wherever it stands if and only if all its
sigmas are settled by letters of its own. -/
theorem lowercase_infix_iff (part : List Char) :
    (∀ text, part <:+: text → lowercase part <:+: lowercase text) ↔
      SigmasSettled part := by
  constructor
  · rintro found before behind rfl
    by_contra unsettled
    obtain ⟨left, right, notInfix⟩ :=
      exists_not_infix_of_not_settled unsettled
    exact notInfix (found _ ⟨left, right, List.append_assoc ..⟩)
  · rintro settled text ⟨left, right, rfl⟩
    have partEq (afterCased beforeCased : Bool) :
        lowercaseWithin afterCased beforeCased part = lowercase part := by
      rw [lowercase, lowercaseFrom_eq]
      exact lowercaseWithin_of_settled settled ..
    rw [List.append_assoc, lowercase_append, partEq, ← List.append_assoc]
    exact List.infix_append ..

end TableGateway
