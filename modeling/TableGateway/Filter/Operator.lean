import TableGateway.Text.Segments

/-!
# Filter operators

Eight operators written with five characters. A clause is cut at the leftmost
place where an operator stands, and there at the longest one: `priority` lists
every operator before those that its symbol begins with. The same place is found
by `locate?`, which searches for one operator after the other.
-/

namespace TableGateway

/-- How a clause compares a field with its value. -/
inductive FilterOperator where
  | nullSafeEqual
  | atLeast
  | atMost
  | equal
  | greater
  | less
  | like
  | oneOf
  deriving DecidableEq

namespace FilterOperator

def symbol : FilterOperator → String
  | nullSafeEqual => "<=>"
  | atLeast => ">="
  | atMost => "<="
  | equal => "="
  | greater => ">"
  | less => "<"
  | like => "~"
  | oneOf => "#"

/-- All operators in the order in which they are tried at one place. -/
def priority : List FilterOperator :=
  [nullSafeEqual, atLeast, atMost, equal, greater, less, like, oneOf]

def ofSymbol? (symbol : String) : Option FilterOperator :=
  priority.find? (·.symbol == symbol)

def startOf? (text : List Char) : Option FilterOperator :=
  priority.find? (·.symbol.toList.isPrefixOf text)

theorem isPrefix_of_startOf? {text : List Char}
    {operator : FilterOperator} (found : startOf? text = some operator) :
    operator.symbol.toList <+: text := by
  have holds := List.find?_some found
  exact List.isPrefixOf_iff_prefix.mp holds

end FilterOperator

structure OperatorCut where
  before : List Char
  operator : FilterOperator
  after : List Char

/-- Cut a text at the first operator in it. -/
def OperatorCut.of? : List Char → Option OperatorCut
  | [] => none
  | letter :: rest =>
      match FilterOperator.startOf? (letter :: rest) with
      | some operator =>
          some ⟨[], operator,
            (letter :: rest).drop operator.symbol.length⟩
      | none =>
          (of? rest).map fun cut =>
            { cut with before := letter :: cut.before }

/-- The three parts of a cut make up the text. -/
theorem OperatorCut.eq_append_of_of?_eq_some {text : List Char}
    {cut : OperatorCut} (found : of? text = some cut) :
    text = cut.before ++ cut.operator.symbol.toList ++ cut.after := by
  induction text generalizing cut with
  | nil => cases found
  | cons letter rest inductionHypothesis =>
      unfold of? at found
      cases start : FilterOperator.startOf? (letter :: rest) with
      | some operator =>
          rw [start, Option.some.injEq] at found
          subst found
          obtain ⟨after, textEq⟩ :=
            FilterOperator.isPrefix_of_startOf? start
          simp only [List.nil_append]
          rw [← textEq, ← String.length_toList, List.drop_left]
      | none =>
          rw [start, Option.map_eq_some_iff] at found
          obtain ⟨inner, innerEq, equality⟩ := found
          subst equality
          simpa using inductionHypothesis innerEq

namespace FilterOperator

/-- Search a clause for an operator. What has been found so far stays unless
the operator occurs before it. -/
def search (clause : List Char) (found : Option (FilterOperator × Nat))
    (operator : FilterOperator) : Option (FilterOperator × Nat) :=
  match byteOffset? operator.symbol.toList clause, found with
  | none, _ => found
  | some offset, none => some (operator, offset)
  | some offset, some (other, best) =>
      if best ≤ offset then some (other, best) else some (operator, offset)

/-- The operator that governs a clause, and the number of bytes before it. Each
operator is searched for on its own, and the one that occurs first wins. -/
def locate? (clause : String) : Option (FilterOperator × Nat) :=
  priority.foldl (search clause.toList) none

end FilterOperator

end TableGateway
