import Mathlib.Data.List.Forall2
import TableGateway.Filter.Condition
import TableGateway.Proofs.Filter.Operators

/-!
# Filters written and read back

A condition has a text, and a text may be read as a condition. The main
statement is `FilterCondition.parse_expression_iff`: reading undoes writing when
fields and values are trimmed, free of separators, and kept apart by their
operator. For what has been read, only the last of these can fail.
-/

namespace TableGateway

universe u v

theorem exists_left_of_forall₂ {Left : Type u} {Right : Type v}
    {related : Left → Right → Prop} {lefts : List Left}
    {rights : List Right} (pairs : List.Forall₂ related lefts rights)
    {right : Right} (member : right ∈ rights) :
    ∃ left ∈ lefts, related left right := by
  induction pairs with
  | nil => cases member
  | cons here _ inductionHypothesis =>
      rcases List.mem_cons.mp member with rfl | inRest
      · exact ⟨_, List.mem_cons_self, here⟩
      · obtain ⟨left, found, fits⟩ := inductionHypothesis inRest
        exact ⟨left, List.mem_cons_of_mem _ found, fits⟩

/-! ## One clause -/

namespace FilterClause

variable {table : String} {clause : FilterClause}

/-- The operator of a clause and the letter behind it read as another one. -/
def IsMerged (clause : FilterClause) : Prop :=
  ∃ letter, clause.value.toList.head? = some letter ∧
    clause.operator.growsWith letter = true

/-- What a clause needs for its text to be read as the clause, if it does not
stand among others. -/
structure IsReadable (clause : FilterClause) : Prop where
  field_nonempty : clause.field ≠ ""
  field_trimmed : trimmed clause.field = clause.field
  field_clean : ∀ letter ∈ clause.field.toList,
    letter ∉ FilterOperator.letters
  value_trimmed : trimmed clause.value = clause.value

/-- Neither side of a clause holds the letter that separates clauses. -/
def IsSingle (clause : FilterClause) : Prop :=
  ';' ∉ clause.field.toList ∧ ';' ∉ clause.value.toList

theorem parse_eq_ok_iff (segment : List Char) :
    parse table segment = .ok clause ↔
      ∃ cut, OperatorCut.of? segment = some cut ∧ trim cut.before ≠ [] ∧
        ⟨String.ofList (trim cut.before), cut.operator,
          String.ofList (trim cut.after)⟩ = clause := by
  rw [parse]
  cases OperatorCut.of? segment with
  | none => simp
  | some cut =>
      by_cases empty : trim cut.before = []
      · simp [empty]
      · simp [empty]

theorem toList_text (clause : FilterClause) :
    clause.text.toList =
      clause.field.toList ++
        (clause.operator.symbol.toList ++ clause.value.toList) := by
  simp [text]

/-- A clause that has been read is readable. -/
theorem isReadable_of_parse {segment : List Char}
    (read : parse table segment = .ok clause) : clause.IsReadable := by
  obtain ⟨cut, found, nonempty, rfl⟩ := (parse_eq_ok_iff segment).mp read
  refine ⟨?_, ?_, ?_, ?_⟩
  · simpa [← String.toList_inj] using nonempty
  · simp [trimmed_eq_self_iff, trim_trim]
  · intro letter member
    rw [String.toList_ofList] at member
    exact OperatorCut.clean_of_of? found letter (mem_of_mem_trim member)
  · simp [trimmed_eq_self_iff, trim_trim]

theorem isSingle_of_parse {segment : List Char}
    (single : ';' ∉ segment)
    (read : parse table segment = .ok clause) : clause.IsSingle := by
  obtain ⟨cut, found, _, rfl⟩ := (parse_eq_ok_iff segment).mp read
  have segmentEq := OperatorCut.eq_append_of_of?_eq_some found
  simp only [segmentEq, List.mem_append, not_or] at single
  obtain ⟨⟨notBefore, _⟩, notAfter⟩ := single
  constructor
  · rw [String.toList_ofList]
    exact fun member => notBefore (mem_of_mem_trim member)
  · rw [String.toList_ofList]
    exact fun member => notAfter (mem_of_mem_trim member)

/-- Where the field holds no operator, the cut comes right behind it. -/
theorem of?_text
    (clean : ∀ letter ∈ clause.field.toList,
      letter ∉ FilterOperator.letters) :
    OperatorCut.of? clause.text.toList =
      (OperatorCut.of? (clause.operator.symbol.toList ++
        clause.value.toList)).map fun cut =>
          { cut with before := clause.field.toList ++ cut.before } := by
  rw [toList_text, OperatorCut.of?_append clean]

theorem not_isMerged_iff :
    ¬clause.IsMerged ↔
      FilterOperator.startOf?
          (clause.operator.symbol.toList ++ clause.value.toList) =
        some clause.operator := by
  rw [FilterOperator.startOf?_symbol_append_iff]
  simp [IsMerged]

/-- The text of a clause is read as that clause when it is readable and its
operator is not merged with the value. -/
theorem parse_text_iff :
    parse table clause.text.toList = .ok clause ↔
      clause.IsReadable ∧ ¬clause.IsMerged := by
  constructor
  · intro read
    have readable := isReadable_of_parse read
    refine ⟨readable, ?_⟩
    obtain ⟨cut, found, _, clauseEq⟩ := (parse_eq_ok_iff _).mp read
    rw [of?_text readable.field_clean, Option.map_eq_some_iff] at found
    obtain ⟨inner, innerFound, rfl⟩ := found
    have operatorEq : inner.operator = clause.operator :=
      congrArg operator clauseEq
    obtain ⟨first, rest, symbolEq, member⟩ :=
      FilterOperator.exists_symbol_eq_cons clause.operator
    rw [not_isMerged_iff]
    cases here : FilterOperator.startOf?
        (clause.operator.symbol.toList ++ clause.value.toList) with
    | some operator =>
        rw [OperatorCut.of?_of_startOf? here] at innerFound
        cases innerFound
        exact congrArg some operatorEq
    | none =>
        rw [symbolEq, List.cons_append,
          FilterOperator.startOf?_cons_eq_none_iff] at here
        exact absurd member here
  · rintro ⟨readable, notMerged⟩
    have here := not_isMerged_iff.mp notMerged
    have found := of?_text readable.field_clean
    rw [OperatorCut.of?_of_startOf? here, ← String.length_toList,
      List.drop_left] at found
    have fieldTrimmed := (trimmed_eq_self_iff _).mp readable.field_trimmed
    have valueTrimmed := (trimmed_eq_self_iff _).mp readable.value_trimmed
    refine (parse_eq_ok_iff _).mpr ⟨_, found, ?_, ?_⟩
    · simp [fieldTrimmed, readable.field_nonempty]
    · simp [fieldTrimmed, valueTrimmed]

end FilterClause

/-! ## Conditions -/

namespace FilterCondition

variable {table : String}

/-- Every segment that is not blank is read as one clause. -/
theorem parseSegments_eq_ok_iff (pieces : List (List Char))
    (clauses : List FilterClause) :
    parseSegments table pieces = .ok clauses ↔
      List.Forall₂ (fun segment clause =>
          FilterClause.parse table segment = .ok clause)
        (pieces.filter (!isBlankText ·)) clauses := by
  induction pieces generalizing clauses with
  | nil => simp [parseSegments, eq_comm]
  | cons segment rest inductionHypothesis =>
      rw [parseSegments]
      by_cases blank : isBlankText segment = true
      · simp [blank, inductionHypothesis]
      · rw [if_neg blank, List.filter_cons_of_pos (by simpa using blank),
          List.forall₂_cons_left_iff]
        cases read : FilterClause.parse table segment with
        | error fault => simp
        | ok clause =>
            cases others : parseSegments table rest with
            | error fault =>
                have none (tail : List FilterClause) :=
                  (inductionHypothesis tail).not.mp (by simp [others])
                simp [none]
            | ok tail =>
                have some (found : List FilterClause) :
                    List.Forall₂ _ _ found ↔ tail = found :=
                  (inductionHypothesis found).symm.trans (by simp [others])
                simp only [some, Except.ok.injEq]
                constructor
                · rintro rfl
                  exact ⟨clause, tail, rfl, rfl, rfl⟩
                · rintro ⟨_, _, rfl, rfl, rfl⟩
                  rfl

theorem parse_eq_ok_iff (expression : String)
    (condition : FilterCondition) :
    parse expression table = .ok condition ↔
      condition.table = table ∧
        List.Forall₂ (fun segment clause =>
            FilterClause.parse table segment = .ok clause)
          ((segments ';' expression.toList).filter (!isBlankText ·))
          condition.clauses := by
  rw [← parseSegments_eq_ok_iff, parse]
  cases condition with
  | mk name clauses =>
      cases parseSegments table (segments ';' expression.toList) with
      | error fault => simp [Except.map]
      | ok read => simp [Except.map, eq_comm]

/-- Every clause of a condition that has been read comes from one segment. -/
theorem exists_segment_of_parse {expression : String}
    {condition : FilterCondition}
    (read : parse expression table = .ok condition)
    {clause : FilterClause} (member : clause ∈ condition.clauses) :
    ∃ segment ∈ segments ';' expression.toList,
      FilterClause.parse table segment = .ok clause := by
  obtain ⟨_, pairs⟩ := (parse_eq_ok_iff expression condition).mp read
  obtain ⟨segment, kept, parsed⟩ := exists_left_of_forall₂ pairs member
  exact ⟨segment, (List.mem_filter.mp kept).1, parsed⟩

theorem isReadable_of_mem_parse {expression : String}
    {condition : FilterCondition}
    (read : parse expression table = .ok condition)
    {clause : FilterClause} (member : clause ∈ condition.clauses) :
    clause.IsReadable ∧ clause.IsSingle := by
  obtain ⟨segment, found, parsed⟩ := exists_segment_of_parse read member
  have single : ';' ∉ segment := by
    intro held
    have notCut := not_cut_of_mem_segmentsBy found held
    simp at notCut
  exact ⟨FilterClause.isReadable_of_parse parsed,
    FilterClause.isSingle_of_parse single parsed⟩

/-- Cutting at semicolons undoes joining, and no piece is blank. -/
theorem segments_expression {condition : FilterCondition}
    (single : ∀ clause ∈ condition.clauses, clause.IsSingle) :
    (segments ';' condition.expression.toList).filter (!isBlankText ·) =
      condition.clauses.map (·.text.toList) := by
  have expressionEq : condition.expression.toList =
      [';'].intercalate (condition.clauses.map (·.text.toList)) := by
    simp [expression]
  have allClean : ∀ part ∈ condition.clauses.map (·.text.toList),
      ';' ∉ part := by
    intro part member
    obtain ⟨clause, inClauses, rfl⟩ := List.mem_map.mp member
    obtain ⟨notInField, notInValue⟩ := single clause inClauses
    have notInSymbol : ';' ∉ clause.operator.symbol.toList := by
      cases clause.operator <;> decide
    simp [FilterClause.toList_text, notInField, notInSymbol, notInValue]
  have noneBlank : ∀ part ∈ condition.clauses.map (·.text.toList),
      (!isBlankText part) = true := by
    intro part member
    obtain ⟨clause, _, rfl⟩ := List.mem_map.mp member
    obtain ⟨first, rest, symbolEq, firstMember⟩ :=
      FilterOperator.exists_symbol_eq_cons clause.operator
    have inText : first ∈ clause.text.toList := by
      simp [FilterClause.toList_text, symbolEq]
    have visible : FilterOperator.letters.all (!isBlank ·) = true := by
      decide
    by_contra blank
    have allBlank := isBlankText_iff.mp (by simpa using blank)
    have firstBlank := allBlank first inText
    have firstVisible := List.all_eq_true.mp visible first firstMember
    rw [firstBlank] at firstVisible
    cases firstVisible
  rw [expressionEq]
  cases parts : condition.clauses.map (·.text.toList) with
  | nil => rfl
  | cons head tail =>
      rw [parts] at allClean noneBlank
      rw [segments_intercalate (List.cons_ne_nil head tail) allClean,
        List.filter_eq_self.mpr noneBlank]

theorem parse_expression_of_single {condition : FilterCondition}
    (single : ∀ clause ∈ condition.clauses, clause.IsSingle) :
    parse condition.expression condition.table = .ok condition ↔
      ∀ clause ∈ condition.clauses,
        clause.IsReadable ∧ ¬clause.IsMerged := by
  rw [parse_eq_ok_iff, segments_expression single,
    List.forall₂_map_left_iff, List.forall₂_same]
  simp [FilterClause.parse_text_iff]

/-- A condition is what its text is read as if and only if every clause is
readable, holds no semicolon, and has an operator that is not merged with the
letter behind it. A condition that has been read is what its text is read as
unless an operator is so merged. -/
theorem parse_expression_iff (condition : FilterCondition) :
    (parse condition.expression condition.table = .ok condition ↔
      ∀ clause ∈ condition.clauses,
        clause.IsReadable ∧ clause.IsSingle ∧ ¬clause.IsMerged) ∧
    ∀ expression, parse expression condition.table = .ok condition →
      (parse condition.expression condition.table = .ok condition ↔
        ∀ clause ∈ condition.clauses, ¬clause.IsMerged) := by
  constructor
  · constructor
    · intro read
      have single : ∀ clause ∈ condition.clauses, clause.IsSingle :=
        fun _ member => (isReadable_of_mem_parse read member).2
      intro clause member
      obtain ⟨readable, apart⟩ :=
        (parse_expression_of_single single).mp read clause member
      exact ⟨readable, single clause member, apart⟩
    · intro fits
      have single : ∀ clause ∈ condition.clauses, clause.IsSingle :=
        fun clause member => (fits clause member).2.1
      refine (parse_expression_of_single single).mpr ?_
      intro clause member
      obtain ⟨readable, _, apart⟩ := fits clause member
      exact ⟨readable, apart⟩
  · intro expression read
    have single : ∀ clause ∈ condition.clauses, clause.IsSingle :=
      fun _ member => (isReadable_of_mem_parse read member).2
    rw [parse_expression_of_single single]
    constructor
    · exact fun fits clause member => (fits clause member).2
    · exact fun apart clause member =>
        ⟨(isReadable_of_mem_parse read member).1, apart clause member⟩

/-- A filter whose value begins with the letter that its operator lacks. -/
def spacedFilter : FilterCondition :=
  ⟨"t", [⟨"a", .less, "=1"⟩]⟩

/-- That filter can be read, and its own text is read as another one. -/
theorem parse_expression_spacedFilter :
    parse "a< =1" spacedFilter.table = .ok spacedFilter ∧
      spacedFilter.expression = "a<=1" ∧
      parse spacedFilter.expression spacedFilter.table ≠
        .ok spacedFilter := by
  have read : parse "a< =1" spacedFilter.table = .ok spacedFilter := by
    decide
  refine ⟨read, by decide, ?_⟩
  intro readBack
  have apart :=
    ((parse_expression_iff spacedFilter).2 "a< =1" read).mp readBack
  exact apart ⟨"a", .less, "=1"⟩ List.mem_cons_self ⟨'=', rfl, rfl⟩

end FilterCondition

end TableGateway
