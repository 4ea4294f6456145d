import TableGateway.Proofs.Filter.Location
import TableGateway.Proofs.Filter.RoundTrip

/-!
# The grammar of filters

A filter is accepted when each of its segments is blank or a clause: it holds a
letter of an operator, and something else than white space before the first one.
The main statement is `FilterCondition.parse_follows_grammar`, which also says
which clauses are read, and which error is reported for which segment.
-/

namespace TableGateway

open FilterOperator (textBefore textFrom)

theorem isBlankText_eq_all (text : List Char) :
    isBlankText text = text.all isBlank := by
  rw [Bool.eq_iff_iff, isBlankText_iff, List.all_eq_true]

theorem trim_eq_nil_iff (text : List Char) :
    trim text = [] ↔ ∀ letter ∈ text, isBlank letter = true := by
  rw [← isBlankText_iff, isBlankText, List.isEmpty_iff]

/-! ## Segments -/

/-- A segment that is a clause: an operator stands in it, and something else
than white space before it. -/
structure IsClauseText (segment : List Char) : Prop where
  operated : ∃ letter ∈ segment, letter ∈ FilterOperator.letters
  named : ∃ letter ∈ textBefore segment, isBlank letter = false

/-- What is wrong with a segment that is not a clause. -/
def clauseFault (table : String) (segment : List Char) : ExpressionError :=
  if segment.any FilterOperator.letters.contains then
    .emptyField table (String.ofList segment)
  else .missingOperator table (String.ofList segment)

/-- A segment that does not keep a filter from being read. -/
def IsAccepted (segment : List Char) : Prop :=
  segment.all isBlank = true ∨ IsClauseText segment

/-- A clause that a segment is read as. -/
structure FilterClause.IsWrittenIn (clause : FilterClause)
    (segment : List Char) : Prop where
  field_eq : clause.field = String.ofList (trim (textBefore segment))
  operator_longest : clause.operator.IsLongestAt (textFrom segment)
  value_eq : clause.value = String.ofList
    (trim ((textFrom segment).drop clause.operator.symbol.length))

namespace FilterClause

variable {segment : List Char} {clause : FilterClause}

theorem parse_of_no_letter (table : String)
    (clean : ∀ letter ∈ segment, letter ∉ FilterOperator.letters) :
    parse table segment =
      .error (.missingOperator table (String.ofList segment)) := by
  rw [parse, (OperatorCut.of?_eq_none_iff segment).mpr clean]

/-- A segment with an operator is cut there, and read unless nothing but white
space comes before it. -/
theorem exists_parse_of_letter (table : String)
    (operated : ∃ letter ∈ segment, letter ∈ FilterOperator.letters) :
    ∃ clause : FilterClause, clause.IsWrittenIn segment ∧
      parse table segment =
        if trim (textBefore segment) = [] then
          .error (.emptyField table (String.ofList segment))
        else .ok clause := by
  have cutFound : OperatorCut.of? segment ≠ none := by
    rw [Ne, OperatorCut.of?_eq_none_iff]
    intro clean
    obtain ⟨letter, member, isLetter⟩ := operated
    exact clean letter member isLetter
  rw [OperatorCut.of?_eq, Ne, Option.map_eq_none_iff] at cutFound
  obtain ⟨operator, here⟩ := Option.ne_none_iff_exists'.mp cutFound
  refine ⟨⟨String.ofList (trim (textBefore segment)), operator,
      String.ofList
        (trim ((textFrom segment).drop operator.symbol.length))⟩,
    ⟨rfl, FilterOperator.isLongestAt_of_startOf? here, rfl⟩, ?_⟩
  rw [parse, OperatorCut.of?_eq, here, Option.map_some]
  simp only [List.isEmpty_iff]

/-- A segment that is a clause is read, and any other one is faulty. -/
theorem parse_cases (table : String) (segment : List Char) :
    (IsClauseText segment ∧ ∃ clause : FilterClause,
      clause.IsWrittenIn segment ∧ parse table segment = .ok clause) ∨
    (¬IsClauseText segment ∧
      parse table segment = .error (clauseFault table segment)) := by
  by_cases operated :
      ∃ letter ∈ segment, letter ∈ FilterOperator.letters
  · obtain ⟨clause, written, parseEq⟩ :=
      exists_parse_of_letter table operated
    by_cases empty : trim (textBefore segment) = []
    · rw [if_pos empty] at parseEq
      refine Or.inr ⟨?_, ?_⟩
      · intro isClause
        obtain ⟨letter, member, unblank⟩ := isClause.named
        have blank := (trim_eq_nil_iff _).mp empty letter member
        rw [unblank] at blank
        cases blank
      · have someLetter :
            segment.any FilterOperator.letters.contains = true := by
          simpa using operated
        rw [parseEq, clauseFault, if_pos someLetter]
    · rw [if_neg empty] at parseEq
      have named : ∃ letter ∈ textBefore segment,
          isBlank letter = false := by
        simpa using (trim_eq_nil_iff _).not.mp empty
      exact Or.inl ⟨⟨operated, named⟩, clause, written, parseEq⟩
  · have clean : ∀ letter ∈ segment, letter ∉ FilterOperator.letters :=
      fun letter member isLetter => operated ⟨letter, member, isLetter⟩
    have noLetter :
        ¬segment.any FilterOperator.letters.contains = true := by
      simpa using clean
    refine Or.inr ⟨fun isClause => operated isClause.operated, ?_⟩
    rw [parse_of_no_letter table clean, clauseFault, if_neg noLetter]

theorem isWrittenIn_of_parse {table : String}
    (read : parse table segment = .ok clause) :
    clause.IsWrittenIn segment := by
  rcases parse_cases table segment with
    ⟨_, found, written, parseEq⟩ | ⟨_, parseEq⟩
  · rw [read, Except.ok.injEq] at parseEq
    rwa [parseEq]
  · rw [read] at parseEq
    cases parseEq

end FilterClause

/-! ## Filters -/

namespace FilterCondition

/-- Either every segment is accepted and a filter is read, or there is a first
segment that is not accepted and the fault is its own. -/
theorem parseSegments_cases (table : String) (pieces : List (List Char)) :
    ((∀ segment ∈ pieces, IsAccepted segment) ∧
      ∃ clauses, parseSegments table pieces = .ok clauses) ∨
    ∃ earlier segment later, pieces = earlier ++ segment :: later ∧
      (∀ other ∈ earlier, IsAccepted other) ∧ ¬IsAccepted segment ∧
      parseSegments table pieces = .error (clauseFault table segment) := by
  induction pieces with
  | nil => exact Or.inl ⟨nofun, [], rfl⟩
  | cons segment rest inductionHypothesis =>
      rw [parseSegments, isBlankText_eq_all]
      by_cases blank : segment.all isBlank = true
      · rw [if_pos blank]
        have accepted : IsAccepted segment := Or.inl blank
        rcases inductionHypothesis with
          ⟨allAccepted, read⟩ | ⟨earlier, faulty, later, rfl, before, failed⟩
        · exact Or.inl
            ⟨List.forall_mem_cons.mpr ⟨accepted, allAccepted⟩, read⟩
        · exact Or.inr ⟨segment :: earlier, faulty, later, rfl,
            List.forall_mem_cons.mpr ⟨accepted, before⟩, failed⟩
      · rw [if_neg blank]
        rcases FilterClause.parse_cases table segment with
          ⟨isClause, clause, _, parseEq⟩ | ⟨notClause, parseEq⟩
        · rw [parseEq]
          have accepted : IsAccepted segment := Or.inr isClause
          rcases inductionHypothesis with
            ⟨allAccepted, clauses, read⟩ |
              ⟨earlier, faulty, later, restEq, before, refused, failed⟩
          · rw [read]
            exact Or.inl
              ⟨List.forall_mem_cons.mpr ⟨accepted, allAccepted⟩, _, rfl⟩
          · rw [failed]
            refine Or.inr ⟨segment :: earlier, faulty, later, ?_,
              List.forall_mem_cons.mpr ⟨accepted, before⟩, refused, rfl⟩
            rw [restEq, List.cons_append]
        · rw [parseEq]
          exact Or.inr ⟨[], segment, rest, rfl, nofun,
            fun accepted => accepted.elim blank notClause, rfl⟩

variable {expression table : String} {condition : FilterCondition}

/-- The clauses of a filter that has been read are written in its segments that
are not blank, one in each. -/
theorem forall₂_isWrittenIn_of_parse
    (read : parse expression table = .ok condition) :
    condition.table = table ∧
      List.Forall₂ (fun segment clause => clause.IsWrittenIn segment)
        ((segments ';' expression.toList).filter (!·.all isBlank))
        condition.clauses := by
  obtain ⟨tableEq, pairs⟩ := (parse_eq_ok_iff expression condition).mp read
  simp only [isBlankText_eq_all] at pairs
  exact ⟨tableEq,
    pairs.imp fun _ _ parsed => FilterClause.isWrittenIn_of_parse parsed⟩

theorem parse_cases (expression table : String) :
    ((∀ segment ∈ segments ';' expression.toList, IsAccepted segment) ∧
      ∃ condition, parse expression table = .ok condition) ∨
    ∃ earlier segment later,
      segments ';' expression.toList = earlier ++ segment :: later ∧
      (∀ other ∈ earlier, IsAccepted other) ∧ ¬IsAccepted segment ∧
      parse expression table = .error (clauseFault table segment) := by
  unfold parse
  rcases parseSegments_cases table (segments ';' expression.toList) with
    ⟨allAccepted, clauses, read⟩ |
      ⟨earlier, segment, later, piecesEq, before, refused, failed⟩
  · rw [read]
    exact Or.inl ⟨allAccepted, _, rfl⟩
  · rw [failed]
    exact Or.inr ⟨earlier, segment, later, piecesEq, before, refused, rfl⟩

theorem field_of_mem_parse (read : parse expression table = .ok condition)
    {clause : FilterClause} (member : clause ∈ condition.clauses) :
    clause.field ≠ "" ∧
      ∀ letter ∈ clause.field.toList,
        letter ≠ ';' ∧ letter ∉ FilterOperator.letters := by
  obtain ⟨readable, single⟩ := isReadable_of_mem_parse read member
  refine ⟨readable.field_nonempty, ?_⟩
  intro letter inField
  refine ⟨?_, readable.field_clean letter inField⟩
  intro isSeparator
  exact single.1 (isSeparator ▸ inField)

/-- A filter is read exactly if every segment is blank or a clause. The clauses
are then those of the segments that are not blank, in order, and their fields
hold neither separators nor operators. Otherwise the fault is that of the first
segment that is not accepted, as it was written. -/
theorem parse_follows_grammar (expression table : String) :
    ((∃ condition, parse expression table = .ok condition) ↔
      ∀ segment ∈ segments ';' expression.toList, IsAccepted segment) ∧
    (∀ condition, parse expression table = .ok condition →
      condition.table = table ∧
      List.Forall₂ (fun segment clause => clause.IsWrittenIn segment)
        ((segments ';' expression.toList).filter (!·.all isBlank))
        condition.clauses ∧
      ∀ clause ∈ condition.clauses, clause.field ≠ "" ∧
        ∀ letter ∈ clause.field.toList,
          letter ≠ ';' ∧ letter ∉ FilterOperator.letters) ∧
    ∀ fault, parse expression table = .error fault →
      ∃ earlier segment later,
        segments ';' expression.toList = earlier ++ segment :: later ∧
        (∀ other ∈ earlier, IsAccepted other) ∧ ¬IsAccepted segment ∧
        fault = clauseFault table segment := by
  refine ⟨?_, ?_, ?_⟩
  · rcases parse_cases expression table with
      ⟨allAccepted, read⟩ | ⟨earlier, segment, _, piecesEq, _, refused, failed⟩
    · exact iff_of_true read allAccepted
    · refine iff_of_false ?_ ?_
      · intro succeeded
        obtain ⟨condition, read⟩ := succeeded
        rw [failed] at read
        cases read
      · intro allAccepted
        refine refused (allAccepted segment ?_)
        rw [piecesEq]
        exact List.mem_append_right earlier List.mem_cons_self
  · intro condition read
    obtain ⟨tableEq, pairs⟩ := forall₂_isWrittenIn_of_parse read
    exact ⟨tableEq, pairs, fun _ member => field_of_mem_parse read member⟩
  · intro fault failed
    rcases parse_cases expression table with
      ⟨_, _, read⟩ |
        ⟨earlier, segment, later, piecesEq, before, refused, failedEq⟩
    · rw [read] at failed
      cases failed
    · rw [failedEq, Except.error.injEq] at failed
      exact ⟨earlier, segment, later, piecesEq, before, refused,
        failed.symm⟩

example : parse "a=1; ; <>=2;b" "t" = .error (.emptyField "t" " <>=2") := by
  decide

end FilterCondition

end TableGateway
