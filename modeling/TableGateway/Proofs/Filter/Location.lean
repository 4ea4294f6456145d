import TableGateway.Filter.Clause
import TableGateway.Proofs.Filter.Operators

/-!
# The operator that governs a clause

The searches for each operator come to the place where a clause is cut, which
lies in front of the first letter of an operator. The main statement is
`FilterOperator.finds_leftmost_longest`: the place that is found is the first
one, the operator the longest one there, and both its ends are places between
characters, so that a clause can be read by slicing it there.
-/

namespace TableGateway

/-! ## The longest operator at a place -/

namespace FilterOperator

/-- A text up to the first letter of an operator. -/
def textBefore (text : List Char) : List Char :=
  text.takeWhile fun letter => !letters.contains letter

/-- A text from the first letter of an operator on. -/
def textFrom (text : List Char) : List Char :=
  text.dropWhile fun letter => !letters.contains letter

/-- An operator that a text begins with, while it begins with no longer one. -/
structure IsLongestAt (operator : FilterOperator) (text : List Char) :
    Prop where
  begins : operator.symbol.toList <+: text
  longest : ∀ other : FilterOperator, other.symbol.toList <+: text →
    other.symbol.length ≤ operator.symbol.length

theorem mem_priority (operator : FilterOperator) : operator ∈ priority := by
  cases operator <;> decide

/-- No operator begins with one that is tried before it. -/
theorem pairwise_priority :
    priority.Pairwise fun earlier later =>
      ¬earlier.symbol.toList <+: later.symbol.toList := by
  decide

theorem isLongestAt_of_startOf? {text : List Char}
    {operator : FilterOperator} (here : startOf? text = some operator) :
    operator.IsLongestAt text := by
  refine ⟨isPrefix_of_startOf? here, ?_⟩
  intro other begins
  obtain ⟨_, earlier, later, priorityEq, notEarlier⟩ :=
    List.find?_eq_some_iff_append.mp here
  have member := mem_priority other
  rw [priorityEq, List.mem_append, List.mem_cons] at member
  rcases member with inEarlier | same | inLater
  · have notHere := notEarlier other inEarlier
    rw [List.isPrefixOf_iff_prefix.mpr begins] at notHere
    cases notHere
  · exact Nat.le_of_eq (congrArg (·.symbol.length) same)
  · have ordered := pairwise_priority
    rw [priorityEq, List.pairwise_append, List.pairwise_cons] at ordered
    have notPrefix := ordered.2.1.1 other inLater
    have shorter := (List.prefix_or_prefix_of_prefix begins
      (isPrefix_of_startOf? here)).resolve_right notPrefix
    have lengthLe := shorter.length_le
    rwa [String.length_toList, String.length_toList] at lengthLe

theorem ofSymbol?_symbol (operator : FilterOperator) :
    ofSymbol? operator.symbol = some operator := by
  cases operator <;> rfl

theorem IsLongestAt.eq {text : List Char} {operator other : FilterOperator}
    (longest : operator.IsLongestAt text)
    (otherLongest : other.IsLongestAt text) : operator = other := by
  have lengthEq : operator.symbol.toList.length =
      other.symbol.toList.length := by
    rw [String.length_toList, String.length_toList]
    exact Nat.le_antisymm (otherLongest.longest _ longest.begins)
      (longest.longest _ otherLongest.begins)
  have lettersEq := (List.prefix_of_prefix_length_le longest.begins
    otherLongest.begins (Nat.le_of_eq lengthEq)).eq_of_length lengthEq
  have found := ofSymbol?_symbol operator
  rw [String.toList_inj.mp lettersEq, ofSymbol?_symbol,
    Option.some.injEq] at found
  exact found.symm

theorem startOf?_eq_some_iff {text : List Char} {operator : FilterOperator} :
    startOf? text = some operator ↔ operator.IsLongestAt text := by
  constructor
  · exact isLongestAt_of_startOf?
  · intro longest
    cases here : startOf? text with
    | none =>
        have notHere :=
          List.find?_eq_none.mp here operator (mem_priority operator)
        exact absurd (List.isPrefixOf_iff_prefix.mpr longest.begins) notHere
    | some other =>
        rw [(isLongestAt_of_startOf? here).eq longest]

end FilterOperator

/-! ## The place of a cut -/

namespace OperatorCut

open FilterOperator (textBefore textFrom startOf?)

/-- A text is cut in front of the first letter of an operator. -/
theorem of?_eq (text : List Char) :
    of? text = (startOf? (textFrom text)).map fun operator =>
      ⟨textBefore text, operator,
        (textFrom text).drop operator.symbol.length⟩ := by
  induction text with
  | nil => rfl
  | cons letter rest inductionHypothesis =>
      by_cases isLetter : letter ∈ FilterOperator.letters
      · have beforeEq : textBefore (letter :: rest) = [] := by
          simp [textBefore, isLetter]
        have fromEq : textFrom (letter :: rest) = letter :: rest := by
          simp [textFrom, isLetter]
        rw [beforeEq, fromEq]
        cases here : startOf? (letter :: rest) with
        | some operator => exact of?_of_startOf? here
        | none =>
            rw [FilterOperator.startOf?_cons_eq_none_iff] at here
            exact absurd isLetter here
      · have beforeEq :
            textBefore (letter :: rest) = letter :: textBefore rest := by
          simp [textBefore, isLetter]
        have fromEq : textFrom (letter :: rest) = textFrom rest := by
          simp [textFrom, isLetter]
        have notHere :=
          (FilterOperator.startOf?_cons_eq_none_iff letter rest).mpr isLetter
        rw [of?, notHere, inductionHypothesis, beforeEq, fromEq,
          Option.map_map]
        rfl

/-- A text has no cut when it holds no letter of an operator. -/
theorem of?_eq_none_iff (text : List Char) :
    of? text = none ↔ ∀ letter ∈ text, letter ∉ FilterOperator.letters := by
  induction text with
  | nil => simp [of?]
  | cons letter rest inductionHypothesis =>
      rw [of?, List.forall_mem_cons,
        ← FilterOperator.startOf?_cons_eq_none_iff letter rest]
      cases startOf? (letter :: rest) with
      | some operator => simp
      | none => simp [inductionHypothesis]

/-- The operator at which a text is cut, and the number of bytes before it. -/
def place (cut : OperatorCut) : FilterOperator × Nat :=
  (cut.operator, (String.ofList cut.before).utf8ByteSize)

end OperatorCut

/-! ## Searching for each operator -/

/-- A text that does not stand at the beginning stands further on. -/
theorem byteOffset?_cons {part rest : List Char} {letter : Char}
    (notHere : part.isPrefixOf (letter :: rest) = false) :
    byteOffset? part (letter :: rest) =
      (byteOffset? part rest).map (letter.utf8Size + ·) := by
  rw [byteOffset?, notHere, if_neg Bool.false_ne_true]

theorem byteOffset?_of_isPrefix {part text : List Char}
    (here : part.isPrefixOf text = true) : byteOffset? part text = some 0 := by
  cases text with
  | nil =>
      have partEq := List.prefix_nil.mp (List.isPrefixOf_iff_prefix.mp here)
      rw [partEq]
      rfl
  | cons letter rest => rw [byteOffset?, if_pos here]

namespace FilterOperator

/-- What has been found, behind one more letter. -/
def shifted (letter : Char) (found : FilterOperator × Nat) :
    FilterOperator × Nat :=
  (found.1, letter.utf8Size + found.2)

variable {letter : Char} {rest text : List Char} {operator : FilterOperator}

theorem search_cons (found : Option (FilterOperator × Nat))
    (notHere : operator.symbol.toList.isPrefixOf (letter :: rest) = false) :
    search (letter :: rest) (found.map (shifted letter)) operator =
      (search rest found operator).map (shifted letter) := by
  unfold search
  rw [byteOffset?_cons notHere]
  cases byteOffset? operator.symbol.toList rest with
  | none => rfl
  | some offset =>
      cases found with
      | none => rfl
      | some best =>
          obtain ⟨other, bestOffset⟩ := best
          by_cases earlier : bestOffset ≤ offset
          · simp [shifted, earlier]
          · simp [shifted, earlier]

/-- If no operator stands at the first letter, the search goes on behind it. -/
theorem foldl_search_cons {operators : List FilterOperator}
    (found : Option (FilterOperator × Nat))
    (notHere : ∀ operator ∈ operators,
      operator.symbol.toList.isPrefixOf (letter :: rest) = false) :
    operators.foldl (search (letter :: rest)) (found.map (shifted letter)) =
      (operators.foldl (search rest) found).map (shifted letter) := by
  induction operators generalizing found with
  | nil => rfl
  | cons operator others inductionHypothesis =>
      rw [List.foldl_cons, List.foldl_cons,
        search_cons found (notHere operator List.mem_cons_self)]
      exact inductionHypothesis _ fun other member =>
        notHere other (List.mem_cons_of_mem operator member)

/-- Nothing comes before what begins the text. -/
theorem foldl_search_zero (operators : List FilterOperator) :
    operators.foldl (search text) (some (operator, 0)) =
      some (operator, 0) := by
  induction operators with
  | nil => rfl
  | cons other others inductionHypothesis =>
      have kept : search text (some (operator, 0)) other =
          some (operator, 0) := by
        unfold search
        cases byteOffset? other.symbol.toList text with
        | none => rfl
        | some offset => simp
      rw [List.foldl_cons, kept, inductionHypothesis]

/-- Of the operators that begin the text, the first one in order is found,
unless something has been found at the beginning before. -/
theorem foldl_search_of_find? {operators : List FilterOperator}
    (found : Option (FilterOperator × Nat))
    (here : operators.find? (·.symbol.toList.isPrefixOf (letter :: rest)) =
      some operator) :
    operators.foldl (search (letter :: rest)) (found.map (shifted letter)) =
      some (operator, 0) := by
  induction operators generalizing found with
  | nil => cases here
  | cons head others inductionHypothesis =>
      rw [List.foldl_cons]
      cases begins : head.symbol.toList.isPrefixOf (letter :: rest) with
      | true =>
          rw [List.find?_cons, begins] at here
          obtain rfl := Option.some.inj here
          have positive := letter.utf8Size_pos
          have foundHere : search (letter :: rest)
              (found.map (shifted letter)) head = some (head, 0) := by
            unfold search
            rw [byteOffset?_of_isPrefix begins]
            cases found with
            | none => rfl
            | some best =>
                have notBefore : ¬(shifted letter best).2 ≤ 0 := by
                  unfold shifted
                  omega
                simp [notBefore]
          rw [foundHere, foldl_search_zero]
      | false =>
          rw [List.find?_cons, begins] at here
          rw [search_cons found begins]
          exact inductionHypothesis _ here

/-- The searches come to the place where a text is cut. -/
theorem foldl_search_eq (text : List Char) :
    priority.foldl (search text) none =
      (OperatorCut.of? text).map OperatorCut.place := by
  induction text with
  | nil => rfl
  | cons letter rest inductionHypothesis =>
      cases here : startOf? (letter :: rest) with
      | some operator =>
          rw [OperatorCut.of?_of_startOf? here]
          exact foldl_search_of_find? none here
      | none =>
          have notHere : ∀ operator ∈ priority,
              operator.symbol.toList.isPrefixOf (letter :: rest) = false := by
            intro operator member
            exact Bool.eq_false_iff.mpr
              (List.find?_eq_none.mp here operator member)
          have behind := foldl_search_cons none notHere
          have placeEq : shifted letter ∘ OperatorCut.place =
              OperatorCut.place ∘ fun cut =>
                { cut with before := letter :: cut.before } := by
            funext cut
            simp [shifted, OperatorCut.place, String.ofList_cons]
          rw [Option.map_none, inductionHypothesis, Option.map_map] at behind
          rw [behind, OperatorCut.of?, here, Option.map_map, placeEq]

end FilterOperator

/-! ## Byte offsets -/

/-- A text up to a byte offset; nothing if the offset is no boundary between
characters of the text. -/
def sliceTo? (text : String) (offset : Nat) : Option String :=
  if valid : (⟨offset⟩ : String.Pos.Raw).IsValid text then
    some (text.sliceTo (text.pos ⟨offset⟩ valid)).copy
  else none

/-- A text from a byte offset on; nothing if the offset is no boundary between
characters of the text. -/
def sliceFrom? (text : String) (offset : Nat) : Option String :=
  if valid : (⟨offset⟩ : String.Pos.Raw).IsValid text then
    some (text.sliceFrom (text.pos ⟨offset⟩ valid)).copy
  else none

section Slices

variable (before after : String)

theorem isValid_append_left :
    (⟨before.utf8ByteSize⟩ : String.Pos.Raw).IsValid (before ++ after) :=
  String.Pos.Raw.isValid_iff_exists_append.mpr ⟨before, after, rfl, rfl⟩

/-- The place behind the first of two texts is where they meet. -/
theorem splits_append :
    ((before ++ after).pos _ (isValid_append_left before after)).Splits before
      after :=
  ⟨rfl, rfl⟩

theorem sliceTo?_append :
    sliceTo? (before ++ after) before.utf8ByteSize = some before := by
  rw [sliceTo?, dif_pos (isValid_append_left before after), Option.some.injEq]
  exact (String.Pos.splits _).eq_left (splits_append before after)

theorem sliceFrom?_append :
    sliceFrom? (before ++ after) before.utf8ByteSize = some after := by
  rw [sliceFrom?, dif_pos (isValid_append_left before after),
    Option.some.injEq]
  exact (String.Pos.splits _).eq_right (splits_append before after)

end Slices

namespace FilterClause

/-- Read a clause by the byte offset of its operator: the slice before it is the
field, and the slice behind its symbol the value. -/
def parseSlices? (table clause : String) :
    Option (Except ExpressionError FilterClause) :=
  match FilterOperator.locate? clause with
  | none => some (.error (.missingOperator table clause))
  | some (operator, offset) =>
      match sliceTo? clause offset with
      | none => none
      | some before =>
          if trimmed before = "" then
            some (.error (.emptyField table clause))
          else
            match sliceFrom? clause
              (offset + operator.symbol.utf8ByteSize) with
            | none => none
            | some after =>
                some (.ok ⟨trimmed before, operator, trimmed after⟩)

end FilterClause

namespace FilterOperator

variable {clause : String} {operator : FilterOperator} {offset : Nat}

theorem locate?_eq_none_iff :
    locate? clause = none ↔ ∀ letter ∈ clause.toList, letter ∉ letters := by
  rw [locate?, foldl_search_eq, Option.map_eq_none_iff,
    OperatorCut.of?_eq_none_iff]

/-- The parts of a clause around its operator, and the bytes before them. -/
theorem exists_parts_of_locate?
    (located : locate? clause = some (operator, offset)) :
    ∃ cut : OperatorCut,
      OperatorCut.of? clause.toList = some cut ∧ cut.operator = operator ∧
      offset = (String.ofList cut.before).utf8ByteSize ∧
      clause = String.ofList cut.before ++
        (operator.symbol ++ String.ofList cut.after) := by
  rw [locate?, foldl_search_eq, Option.map_eq_some_iff] at located
  obtain ⟨cut, found, equality⟩ := located
  obtain ⟨rfl, rfl⟩ := Prod.mk.inj equality
  refine ⟨cut, found, rfl, rfl, ?_⟩
  rw [← String.toList_inj, OperatorCut.eq_append_of_of?_eq_some found]
  simp

/-- The operator of a clause and its place: no letter of an operator comes
before it, no longer operator stands there, and both its ends are boundaries
between characters of the clause. -/
structure Governs (operator : FilterOperator) (offset : Nat)
    (clause : String) : Prop where
  leftmost : offset =
    (String.ofList (textBefore clause.toList)).utf8ByteSize
  longest : operator.IsLongestAt (textFrom clause.toList)
  starts : (⟨offset⟩ : String.Pos.Raw).IsValid clause
  ends : (⟨offset + operator.symbol.utf8ByteSize⟩ :
    String.Pos.Raw).IsValid clause

theorem governs_of_locate?
    (located : locate? clause = some (operator, offset)) :
    operator.Governs offset clause := by
  obtain ⟨cut, found, rfl, offsetEq, clauseEq⟩ :=
    exists_parts_of_locate? located
  rw [OperatorCut.of?_eq, Option.map_eq_some_iff] at found
  obtain ⟨operator, here, rfl⟩ := found
  refine ⟨offsetEq, isLongestAt_of_startOf? here, ?_, ?_⟩
  · rw [offsetEq]
    have valid := isValid_append_left
      (String.ofList (textBefore clause.toList))
      (operator.symbol ++ String.ofList
        ((textFrom clause.toList).drop operator.symbol.length))
    rwa [← clauseEq] at valid
  · rw [offsetEq, ← String.utf8ByteSize_append]
    have valid := isValid_append_left
      (String.ofList (textBefore clause.toList) ++ operator.symbol)
      (String.ofList
        ((textFrom clause.toList).drop operator.symbol.length))
    rwa [String.append_assoc, ← clauseEq] at valid

theorem locate?_eq_some_iff :
    locate? clause = some (operator, offset) ↔
      operator.Governs offset clause := by
  constructor
  · exact governs_of_locate?
  · intro governs
    rw [locate?, foldl_search_eq, OperatorCut.of?_eq,
      startOf?_eq_some_iff.mpr governs.longest, governs.leftmost]
    rfl

/-- Both slices of a clause are there, and reading them is reading the cut. -/
theorem parseSlices?_eq (table clause : String) :
    FilterClause.parseSlices? table clause =
      some (FilterClause.parse table clause.toList) := by
  unfold FilterClause.parseSlices? FilterClause.parse
  cases located : locate? clause with
  | none =>
      rw [locate?_eq_none_iff, ← OperatorCut.of?_eq_none_iff] at located
      rw [located, String.ofList_toList]
  | some result =>
      obtain ⟨operator, offset⟩ := result
      obtain ⟨cut, found, rfl, rfl, clauseEq⟩ :=
        exists_parts_of_locate? located
      rw [found]
      have fieldSlice := sliceTo?_append (String.ofList cut.before)
        (cut.operator.symbol ++ String.ofList cut.after)
      have valueSlice := sliceFrom?_append
        (String.ofList cut.before ++ cut.operator.symbol)
        (String.ofList cut.after)
      rw [← clauseEq] at fieldSlice
      rw [String.append_assoc, ← clauseEq, String.utf8ByteSize_append]
        at valueSlice
      dsimp only
      rw [fieldSlice, valueSlice]
      by_cases empty : trim cut.before = []
      · simp [trimmed, empty]
      · simp [trimmed, empty]

/-- A clause is governed by no operator when it holds none of their letters.
Otherwise the operator found is the longest one at the first such letter, and
the offset is the number of bytes before that letter. Slicing the clause at this
offset, and behind the operator, never fails and is how the clause is read. -/
theorem finds_leftmost_longest (clause : String) :
    (locate? clause = none ↔ ∀ letter ∈ clause.toList, letter ∉ letters) ∧
    (∀ operator offset,
      locate? clause = some (operator, offset) ↔
        operator.Governs offset clause) ∧
    ∀ table, FilterClause.parseSlices? table clause =
      some (FilterClause.parse table clause.toList) :=
  ⟨locate?_eq_none_iff, fun _ _ => locate?_eq_some_iff,
    fun table => parseSlices?_eq table clause⟩

end FilterOperator

end TableGateway
