import Mathlib.Data.List.Basic
import TableGateway.Filter.Operator

/-!
# Where a clause is cut

A clause is cut in front of the first letter that an operator begins with, so
that the text before the cut holds no such letter (`OperatorCut.of?_append`,
`OperatorCut.clean_of_of?`). The operator found there is the one that was
written unless the letter behind it makes it a longer one
(`FilterOperator.startOf?_symbol_append_iff`).
-/

namespace TableGateway

namespace FilterOperator

/-- The letters that operators begin with, which are all letters in them. -/
def letters : List Char :=
  ['<', '>', '=', '~', '#']

/-- Whether an operator and the letter behind it begin a longer one. -/
def growsWith : FilterOperator → Char → Bool
  | less, letter => letter == '='
  | greater, letter => letter == '='
  | atMost, letter => letter == '>'
  | _, _ => false

theorem exists_symbol_eq_cons (operator : FilterOperator) :
    ∃ first rest, operator.symbol.toList = first :: rest ∧
      first ∈ letters := by
  cases operator <;> exact ⟨_, _, rfl, by decide⟩

theorem exists_symbol_of_mem_letters {letter : Char}
    (member : letter ∈ letters) :
    ∃ operator : FilterOperator,
      operator.symbol.toList = [letter] ∧ operator ∈ priority := by
  simp only [letters, List.mem_cons, List.not_mem_nil, or_false] at member
  rcases member with rfl | rfl | rfl | rfl | rfl
  · exact ⟨less, rfl, by decide⟩
  · exact ⟨greater, rfl, by decide⟩
  · exact ⟨equal, rfl, by decide⟩
  · exact ⟨like, rfl, by decide⟩
  · exact ⟨oneOf, rfl, by decide⟩

/-- An operator begins at a letter when it is one of theirs. -/
theorem startOf?_cons_eq_none_iff (letter : Char) (rest : List Char) :
    startOf? (letter :: rest) = none ↔ letter ∉ letters := by
  constructor
  · intro absent member
    obtain ⟨operator, symbolEq, inPriority⟩ :=
      exists_symbol_of_mem_letters member
    have notHere := List.find?_eq_none.mp absent operator inPriority
    exact notHere (by simp [symbolEq])
  · intro foreign
    refine List.find?_eq_none.mpr ?_
    intro operator _ here
    obtain ⟨first, others, symbolEq, member⟩ := exists_symbol_eq_cons operator
    rw [symbolEq, List.isPrefixOf_iff_prefix, List.cons_prefix_cons] at here
    exact foreign (here.1 ▸ member)

/-- An operator is found as it was written when the text behind it does not
make it a longer one. -/
theorem startOf?_symbol_append_iff (operator : FilterOperator)
    (after : List Char) :
    startOf? (operator.symbol.toList ++ after) = some operator ↔
      ∀ letter, after.head? = some letter →
        operator.growsWith letter = false := by
  cases after with
  | nil => cases operator <;> simp <;> rfl
  | cons letter rest =>
      have compared (mark : Char) :
          (mark == letter) = decide (letter = mark) := by
        simp [Bool.beq_eq_decide_eq, eq_comm]
      -- Only the three operators that grow leave a search to be settled.
      cases operator <;>
        simp [startOf?, priority, symbol, growsWith, List.isPrefixOf,
          List.find?_cons, compared]
      all_goals grind

end FilterOperator

namespace OperatorCut

/-- Letters that no operator begins with stay before the cut. -/
theorem of?_append {before : List Char}
    (clean : ∀ letter ∈ before, letter ∉ FilterOperator.letters)
    (text : List Char) :
    of? (before ++ text) =
      (of? text).map fun cut => { cut with before := before ++ cut.before } := by
  induction before with
  | nil => simp
  | cons letter rest inductionHypothesis =>
      have notHere :=
        (FilterOperator.startOf?_cons_eq_none_iff letter (rest ++ text)).mpr
          (clean letter List.mem_cons_self)
      have restEq := inductionHypothesis fun other member =>
        clean other (List.mem_cons_of_mem letter member)
      rw [List.cons_append, of?, notHere, restEq, Option.map_map]
      rfl

theorem of?_of_startOf? {text : List Char} {operator : FilterOperator}
    (here : FilterOperator.startOf? text = some operator) :
    of? text =
      some ⟨[], operator, text.drop operator.symbol.length⟩ := by
  cases text with
  | nil => cases operator <;> cases here
  | cons letter rest => rw [of?, here]

theorem clean_of_of? {text : List Char} {cut : OperatorCut}
    (found : of? text = some cut) :
    ∀ letter ∈ cut.before, letter ∉ FilterOperator.letters := by
  induction text generalizing cut with
  | nil => cases found
  | cons head rest inductionHypothesis =>
      rw [of?] at found
      cases here : FilterOperator.startOf? (head :: rest) with
      | some operator =>
          rw [here] at found
          cases found
          simp
      | none =>
          rw [here, Option.map_eq_some_iff] at found
          obtain ⟨inner, innerFound, rfl⟩ := found
          have headClean :=
            (FilterOperator.startOf?_cons_eq_none_iff head rest).mp here
          intro letter member
          rcases List.mem_cons.mp member with rfl | inRest
          · exact headClean
          · exact inductionHypothesis innerFound letter inRest

end OperatorCut

end TableGateway
