/-!
# Cutting and joining text

Text is handled as its list of characters. `segments` cuts at every separator.
The main statement is `segments_intercalate`: cutting undoes joining as long as no
part holds the separator.
-/

namespace TableGateway

/-- The stretches between the characters that satisfy a test. There is one
more stretch than there are such characters. -/
def segmentsBy (cut : Char → Bool) : List Char → List (List Char)
  | [] => [[]]
  | letter :: rest =>
      if cut letter then [] :: segmentsBy cut rest
      else
        match segmentsBy cut rest with
        | [] => [[letter]]
        | first :: others => (letter :: first) :: others

/-- The stretches between the occurrences of a separator. -/
def segments (separator : Char) (text : List Char) : List (List Char) :=
  segmentsBy (· == separator) text

theorem segmentsBy_ne_nil (cut : Char → Bool) (text : List Char) :
    segmentsBy cut text ≠ [] := by
  cases text with
  | nil => simp [segmentsBy]
  | cons letter rest =>
      unfold segmentsBy
      split
      · simp
      · split <;> simp

theorem segmentsBy_append_cut
    {cut : Char → Bool} {letter : Char} (isCut : cut letter = true)
    {part : List Char} (clean : ∀ other ∈ part, cut other = false)
    (rest : List Char) :
    segmentsBy cut (part ++ letter :: rest) =
      part :: segmentsBy cut rest := by
  induction part with
  | nil => simp [segmentsBy, isCut]
  | cons head tail inductionHypothesis =>
      have headClean := clean head (by simp)
      have tailClean := inductionHypothesis fun other member =>
        clean other (by simp [member])
      simp [segmentsBy, headClean, tailClean]

theorem segmentsBy_of_clean
    {cut : Char → Bool} {part : List Char}
    (clean : ∀ other ∈ part, cut other = false) :
    segmentsBy cut part = [part] := by
  induction part with
  | nil => rfl
  | cons head tail inductionHypothesis =>
      have headClean := clean head (by simp)
      have tailClean := inductionHypothesis fun other member =>
        clean other (by simp [member])
      simp [segmentsBy, headClean, tailClean]

/-- No stretch holds a character that is cut at. -/
theorem not_cut_of_mem_segmentsBy
    {cut : Char → Bool} {text segment : List Char} {letter : Char}
    (segmentMember : segment ∈ segmentsBy cut text)
    (letterMember : letter ∈ segment) :
    cut letter = false := by
  induction text generalizing segment with
  | nil =>
      rw [segmentsBy, List.mem_singleton] at segmentMember
      subst segmentMember
      cases letterMember
  | cons head tail inductionHypothesis =>
      unfold segmentsBy at segmentMember
      by_cases headCut : cut head = true
      · rw [if_pos headCut, List.mem_cons] at segmentMember
        cases segmentMember with
        | inl equality =>
            subst equality
            cases letterMember
        | inr member => exact inductionHypothesis member letterMember
      · rw [if_neg headCut] at segmentMember
        rw [Bool.not_eq_true] at headCut
        cases tailEq : segmentsBy cut tail with
        | nil => exact absurd tailEq (segmentsBy_ne_nil cut tail)
        | cons first others =>
            rw [tailEq] at segmentMember inductionHypothesis
            simp only [List.mem_cons] at segmentMember
            cases segmentMember with
            | inl equality =>
                subst equality
                cases List.mem_cons.mp letterMember with
                | inl isHead => exact isHead ▸ headCut
                | inr member =>
                    exact inductionHypothesis (by simp) member
            | inr member =>
                exact inductionHypothesis (by simp [member]) letterMember

/-- Cutting a joined text gives the stretches back, provided that there is at
least one and that none holds the separator. -/
theorem segments_intercalate
    {separator : Char} {parts : List (List Char)} (some : parts ≠ [])
    (clean : ∀ part ∈ parts, separator ∉ part) :
    segments separator ([separator].intercalate parts) = parts := by
  have cleanPart : ∀ part ∈ parts, ∀ letter ∈ part,
      (letter == separator) = false := by
    intro part partMember letter letterMember
    rw [beq_eq_false_iff_ne]
    intro equality
    exact clean part partMember (equality ▸ letterMember)
  induction parts with
  | nil => exact absurd rfl some
  | cons first others inductionHypothesis =>
      cases others with
      | nil =>
          rw [List.intercalate_singleton]
          exact segmentsBy_of_clean (cleanPart first (by simp))
      | cons second rest =>
          have othersEq := inductionHypothesis (by simp)
            (fun part member => clean part (by simp [member]))
            (fun part member => cleanPart part (by simp [member]))
          have cutFirst :
              segments separator (first ++ separator ::
                  [separator].intercalate (second :: rest)) =
                first :: segments separator
                  ([separator].intercalate (second :: rest)) :=
            segmentsBy_append_cut (by simp) (cleanPart first (by simp)) _
          rw [List.intercalate_cons_cons, List.append_assoc,
            List.singleton_append, cutFirst, othersEq]

/-- The text before and after the first occurrence of a separator. -/
def cutAt? (separator : Char) : List Char → Option (List Char × List Char)
  | [] => none
  | letter :: rest =>
      if letter = separator then some ([], rest)
      else (cutAt? separator rest).map fun (before, after) =>
        (letter :: before, after)

theorem cutAt?_eq_none_iff {separator : Char} {text : List Char} :
    cutAt? separator text = none ↔ separator ∉ text := by
  induction text with
  | nil => simp [cutAt?]
  | cons head tail inductionHypothesis =>
      by_cases headEq : head = separator
      · simp [cutAt?, headEq]
      · simp [cutAt?, headEq, Ne.symm headEq, inductionHypothesis]

theorem cutAt?_eq_some_iff
    {separator : Char} {text before after : List Char} :
    cutAt? separator text = some (before, after) ↔
      text = before ++ separator :: after ∧ separator ∉ before := by
  induction text generalizing before with
  | nil => simp [cutAt?]
  | cons head tail inductionHypothesis =>
      unfold cutAt?
      by_cases headEq : head = separator
      · subst headEq
        rw [if_pos rfl, Option.some.injEq, Prod.mk.injEq]
        cases before with
        | nil => simp
        | cons first rest =>
            constructor
            · rintro ⟨beforeEq, _⟩
              cases beforeEq
            · rintro ⟨textEq, clean⟩
              rw [List.cons_append, List.cons.injEq] at textEq
              exact absurd (by simp [textEq.1]) clean
      · rw [if_neg headEq, Option.map_eq_some_iff]
        constructor
        · rintro ⟨⟨found, foundAfter⟩, tailEq, equality⟩
          obtain ⟨rfl, rfl⟩ := Prod.mk.inj equality
          obtain ⟨textEq, clean⟩ := inductionHypothesis.mp tailEq
          exact ⟨by simp [textEq], by simp [clean, Ne.symm headEq]⟩
        · rintro ⟨textEq, clean⟩
          cases before with
          | nil =>
              rw [List.nil_append, List.cons.injEq] at textEq
              exact absurd textEq.1 headEq
          | cons first rest =>
              rw [List.cons_append, List.cons.injEq] at textEq
              obtain ⟨rfl, tailEq⟩ := textEq
              refine ⟨(rest, after), inductionHypothesis.mpr
                ⟨tailEq, fun member => clean (by simp [member])⟩, rfl⟩

/-- Whether a text occurs somewhere inside another one. -/
def occursIn (part : List Char) : List Char → Bool
  | [] => part.isEmpty
  | letter :: rest =>
      part.isPrefixOf (letter :: rest) || occursIn part rest

theorem occursIn_iff_isInfix {part text : List Char} :
    occursIn part text = true ↔ part <:+: text := by
  induction text with
  | nil => simp [occursIn]
  | cons head tail inductionHypothesis =>
      rw [occursIn, Bool.or_eq_true, List.isPrefixOf_iff_prefix,
        inductionHypothesis, List.infix_cons_iff]

/-- The number of bytes in UTF-8 before the first place where a text occurs
inside another one, if it does. -/
def byteOffset? (part : List Char) : List Char → Option Nat
  | [] => if part.isEmpty then some 0 else none
  | letter :: rest =>
      if part.isPrefixOf (letter :: rest) then some 0
      else (byteOffset? part rest).map (letter.utf8Size + ·)

/-- Equality of texts up to the case of ASCII letters. -/
def sameAsciiCaseless (left right : String) : Bool :=
  left.toList.map Char.toLower == right.toList.map Char.toLower

end TableGateway
