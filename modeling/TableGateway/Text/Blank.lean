/-!
# White space

The characters with the property `White_Space`, and what is done with them:
trimming both ends of a text and cutting it into words. Zero-width spaces and
the byte order mark do not belong to them.
-/

namespace TableGateway

/-- A white-space character. -/
def isBlank (letter : Char) : Bool :=
  let code := letter.toNat
  (9 ≤ code && code ≤ 13) || code == 0x20 || code == 0x85 ||
    code == 0xA0 || code == 0x1680 || (0x2000 ≤ code && code ≤ 0x200A) ||
    code == 0x2028 || code == 0x2029 || code == 0x202F ||
    code == 0x205F || code == 0x3000

/-- A text without its leading white space. -/
def trimStart (text : List Char) : List Char :=
  text.dropWhile isBlank

/-- A text without its trailing white space. -/
def trimEnd (text : List Char) : List Char :=
  (trimStart text.reverse).reverse

/-- A text without white space at either end. -/
def trim (text : List Char) : List Char :=
  trimEnd (trimStart text)

/-- Whether a text holds nothing but white space. -/
def isBlankText (text : List Char) : Bool :=
  (trim text).isEmpty

theorem trimStart_eq_nil_iff {text : List Char} :
    trimStart text = [] ↔ ∀ letter ∈ text, isBlank letter = true := by
  induction text with
  | nil => simp [trimStart]
  | cons head tail inductionHypothesis =>
      unfold trimStart at inductionHypothesis ⊢
      cases blank : isBlank head with
      | true => simp [blank, inductionHypothesis]
      | false => simp [blank]

theorem isBlankText_iff {text : List Char} :
    isBlankText text = true ↔ ∀ letter ∈ text, isBlank letter = true := by
  unfold isBlankText trim trimEnd
  rw [List.isEmpty_iff, List.reverse_eq_nil_iff, trimStart_eq_nil_iff]
  constructor
  · intro allBlank
    rw [← trimStart_eq_nil_iff]
    cases startEq : trimStart text with
    | nil => rfl
    | cons head tail =>
        have headBlank := allBlank head (by simp [startEq])
        have headKept : isBlank head = false := by
          unfold trimStart at startEq
          have kept := List.head?_dropWhile_not isBlank text
          rw [startEq] at kept
          simpa using kept
        rw [headBlank] at headKept
        cases headKept
  · intro allBlank letter member
    rw [trimStart_eq_nil_iff.mpr allBlank] at member
    simp at member

/-! ## Trimmed texts -/

theorem trimStart_eq_self_iff {text : List Char} :
    trimStart text = text ↔
      ∀ letter, text.head? = some letter → isBlank letter = false := by
  cases text with
  | nil => simp [trimStart]
  | cons head tail =>
      cases blank : isBlank head with
      | false => simp [trimStart, blank]
      | true =>
          have shorter : (trimStart (head :: tail)).length ≤ tail.length := by
            have suffix : trimStart tail <:+ tail :=
              List.dropWhile_suffix isBlank
            simpa [trimStart, blank] using suffix.length_le
          constructor
          · intro same
            rw [same, List.length_cons] at shorter
            omega
          · intro kept
            have headKept := kept head rfl
            rw [blank] at headKept
            cases headKept

theorem trimStart_trimStart (text : List Char) :
    trimStart (trimStart text) = trimStart text := by
  rw [trimStart_eq_self_iff]
  intro letter first
  have kept := List.head?_dropWhile_not isBlank text
  have startEq : (text.dropWhile isBlank).head? = some letter := first
  simpa [startEq] using kept

theorem trimEnd_isPrefix (text : List Char) : trimEnd text <+: text := by
  have suffix : trimStart text.reverse <:+ text.reverse :=
    List.dropWhile_suffix isBlank
  have reversed := List.reverse_prefix.mpr suffix
  rwa [List.reverse_reverse] at reversed

theorem mem_of_mem_trim {letter : Char} {text : List Char}
    (member : letter ∈ trim text) : letter ∈ text := by
  have inStart : letter ∈ trimStart text :=
    (trimEnd_isPrefix (trimStart text)).subset member
  exact (List.dropWhile_suffix isBlank).subset inStart

theorem trim_of_unblank {text : List Char}
    (unblank : ∀ letter ∈ text, isBlank letter = false) :
    trim text = text := by
  have startKept : trimStart text = text := by
    rw [trimStart_eq_self_iff]
    intro letter first
    exact unblank letter (List.mem_of_mem_head? first)
  have endKept : trimStart text.reverse = text.reverse := by
    rw [trimStart_eq_self_iff]
    intro letter first
    exact unblank letter
      (List.mem_reverse.mp (List.mem_of_mem_head? first))
  rw [trim, startKept, trimEnd, endKept, List.reverse_reverse]

theorem trim_trim (text : List Char) : trim (trim text) = trim text := by
  have startKept : trimStart (trim text) = trim text := by
    rw [trimStart_eq_self_iff]
    intro letter first
    have kept :=
      trimStart_eq_self_iff.mp (trimStart_trimStart text) letter
    obtain ⟨rest, startEq⟩ := trimEnd_isPrefix (trimStart text)
    apply kept
    rw [← startEq, List.head?_append]
    have firstEq : (trimEnd (trimStart text)).head? = some letter := first
    simp [firstEq]
  have endKept (inner : List Char) :
      trimEnd (trimEnd inner) = trimEnd inner := by
    simp [trimEnd, trimStart_trimStart]
  calc trim (trim text)
      = trimEnd (trim text) := congrArg trimEnd startKept
    _ = trim text := endKept (trimStart text)

/-- A string without white space at either end. -/
def trimmed (text : String) : String :=
  String.ofList (trim text.toList)

theorem trimmed_eq_self_iff (text : String) :
    trimmed text = text ↔ trim text.toList = text.toList := by
  rw [trimmed, ← String.toList_inj, String.toList_ofList]

/-- The maximal stretches without white space; `current` holds the letters of
the stretch being read, last one first. -/
def blankWordsFrom (current : List Char) : List Char → List (List Char)
  | [] => if current.isEmpty then [] else [current.reverse]
  | letter :: rest =>
      if isBlank letter then
        if current.isEmpty then blankWordsFrom [] rest
        else current.reverse :: blankWordsFrom [] rest
      else blankWordsFrom (letter :: current) rest

/-- The words of a text, separated by white space. -/
def blankWords (text : List Char) : List (List Char) :=
  blankWordsFrom [] text

end TableGateway
