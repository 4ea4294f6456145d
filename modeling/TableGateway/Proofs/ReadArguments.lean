import TableGateway.Arguments
import TableGateway.Proofs.Json.Lookup
import TableGateway.Proofs.Json.Overlay

/-!
# What arguments are read as

Reading goes through the arguments one by one. What comes of that can be said
without the order: the filter and the pagination are each read from the argument
of their name, and the other arguments are left as they are
(`ParsedArguments.parse_eq`). The filter stands before the pagination in every
object of arguments, which settles whose fault is reported. The main statement is
`ParsedArguments.parse_reads`.
-/

namespace TableGateway

namespace Members

variable {members : Members}

theorem Ascending.filter (ascending : members.Ascending)
    (keep : String × Json → Bool) : Ascending (members.filter keep) :=
  List.Pairwise.sublist (List.filter_sublist.map Prod.fst) ascending

end Members

/-! ## Expression arguments -/

namespace Arguments

/-- No value is supplied under a name: there is none, or it is null. -/
def Lacks (arguments : Arguments) (name : String) : Prop :=
  arguments.get? name = none ∨ arguments.get? name = some .null

/-- A text is supplied under a name. -/
def Supplies (arguments : Arguments) (name text : String) : Prop :=
  arguments.get? name = some (.string text)

/-- A value is supplied under a name, and it is no text. -/
def Misuses (arguments : Arguments) (name : String) : Prop :=
  ¬arguments.Lacks name ∧ ∀ text, ¬arguments.Supplies name text

section Expression

variable {value : Type} (arguments : Arguments) (name : String)
  (read : String → Except ExpressionError value)

/-- What is found under a name: nothing if none is supplied, and otherwise what
the text supplied is read as. -/
def Finds (found : Option value) : Prop :=
  arguments.Lacks name ∧ found = none ∨
    ∃ text item, arguments.Supplies name text ∧ read text = .ok item ∧
      found = some item

theorem exists_finds_iff :
    (∃ found, arguments.Finds name read found) ↔
      arguments.Lacks name ∨
        ∃ text item, arguments.Supplies name text ∧ read text = .ok item := by
  constructor
  · rintro ⟨_, ⟨lacks, _⟩ | ⟨text, item, supplies, readEq, _⟩⟩
    · exact Or.inl lacks
    · exact Or.inr ⟨text, item, supplies, readEq⟩
  · rintro (lacks | ⟨text, item, supplies, readEq⟩)
    · exact ⟨none, Or.inl ⟨lacks, rfl⟩⟩
    · exact ⟨some item, Or.inr ⟨text, item, supplies, readEq, rfl⟩⟩

/-- The fault of what is supplied under a name: it is no text, or a text that is
refused. -/
def Fails (fault : ExpressionError) : Prop :=
  arguments.Misuses name ∧ fault = .notAString name ∨
    ∃ text, arguments.Supplies name text ∧ read text = .error fault

end Expression

/-- The arguments that are not expressions. -/
def others (arguments : Arguments) : Arguments :=
  arguments.filter fun (name, _) => name ≠ "filter" ∧ name ≠ "pagination"

/-- An argument is not supplied, supplied as a text, or misused. -/
theorem supplied_cases (arguments : Arguments) (name : String) :
    arguments.Lacks name ∨ (∃ text, arguments.Supplies name text) ∨
      arguments.Misuses name := by
  by_cases lacks : arguments.Lacks name
  · exact Or.inl lacks
  · by_cases supplies : ∃ text, arguments.Supplies name text
    · exact Or.inr (Or.inl supplies)
    · exact Or.inr (Or.inr ⟨lacks, not_exists.mp supplies⟩)

variable {arguments : Arguments} {name text other : String}

theorem Supplies.not_lacks (supplies : arguments.Supplies name text) :
    ¬arguments.Lacks name := by
  rintro (absent | null)
  · nomatch supplies.symm.trans absent
  · nomatch supplies.symm.trans null

theorem Supplies.unique (supplies : arguments.Supplies name text)
    (suppliesOther : arguments.Supplies name other) : text = other := by
  have same : some (Json.string text) = some (Json.string other) :=
    supplies.symm.trans suppliesOther
  injection same with valueEq
  injection valueEq

end Arguments

section Expression

variable {value : Type}

/-- What an expression argument comes to: what there was before if none is
supplied, what its text is read as, or a fault. -/
def readExpression (name : String)
    (read : String → Except ExpressionError value) (before : Option value) :
    Option Json → Except ExpressionError (Option value)
  | none => .ok before
  | some .null => .ok before
  | some (.string text) => (read text).map some
  | some _ => .error (.notAString name)

variable {name : String} {read : String → Except ExpressionError value}
  {arguments : Arguments}

theorem readExpression_of_lacks (lacks : arguments.Lacks name) :
    readExpression name read none (arguments.get? name) = .ok none := by
  rcases lacks with absent | null
  · rw [absent]
    rfl
  · rw [null]
    rfl

theorem readExpression_of_supplies {text : String}
    (supplies : arguments.Supplies name text) :
    readExpression name read none (arguments.get? name) =
      (read text).map some := by
  rw [supplies]
  rfl

theorem readExpression_of_misuses (misuses : arguments.Misuses name) :
    readExpression name read none (arguments.get? name) =
      .error (.notAString name) := by
  obtain ⟨supplied, noText⟩ := misuses
  unfold Arguments.Lacks at supplied
  unfold Arguments.Supplies at noText
  cases given : arguments.get? name with
  | none => exact absurd (Or.inl given) supplied
  | some value =>
      cases value with
      | null => exact absurd (Or.inr given) supplied
      | string text => exact absurd given (noText text)
      | _ => rfl

theorem readExpression_eq_ok_iff (found : Option value) :
    readExpression name read none (arguments.get? name) = .ok found ↔
      arguments.Finds name read found := by
  rcases arguments.supplied_cases name with lacks | ⟨text, supplies⟩ | misuses
  · rw [readExpression_of_lacks lacks, Except.ok.injEq]
    constructor
    · exact fun none => Or.inl ⟨lacks, none.symm⟩
    · rintro (⟨_, none⟩ | ⟨_, _, supplies, _⟩)
      · exact none.symm
      · exact absurd lacks supplies.not_lacks
  · rw [readExpression_of_supplies supplies]
    constructor
    · intro readEq
      cases outcome : read text with
      | error fault =>
          rw [outcome] at readEq
          nomatch readEq
      | ok item =>
          rw [outcome] at readEq
          exact Or.inr
            ⟨text, item, supplies, outcome, (Except.ok.inj readEq).symm⟩
    · rintro (⟨lacks, _⟩ | ⟨other, item, suppliesOther, itemEq, rfl⟩)
      · exact absurd lacks supplies.not_lacks
      · rw [supplies.unique suppliesOther, itemEq]
        rfl
  · rw [readExpression_of_misuses misuses]
    constructor
    · nofun
    · rintro (⟨lacks, _⟩ | ⟨text, _, supplies, _⟩)
      · exact absurd lacks misuses.1
      · exact absurd supplies (misuses.2 text)

theorem readExpression_eq_error_iff (fault : ExpressionError) :
    readExpression name read none (arguments.get? name) = .error fault ↔
      arguments.Fails name read fault := by
  rcases arguments.supplied_cases name with lacks | ⟨text, supplies⟩ | misuses
  · rw [readExpression_of_lacks lacks]
    constructor
    · nofun
    · rintro (⟨misuses, _⟩ | ⟨_, supplies, _⟩)
      · exact absurd lacks misuses.1
      · exact absurd lacks supplies.not_lacks
  · rw [readExpression_of_supplies supplies]
    constructor
    · intro readEq
      cases outcome : read text with
      | error found =>
          rw [outcome] at readEq
          cases readEq
          exact Or.inr ⟨text, supplies, outcome⟩
      | ok item =>
          rw [outcome] at readEq
          nomatch readEq
    · rintro (⟨misuses, _⟩ | ⟨other, suppliesOther, refused⟩)
      · exact absurd supplies (misuses.2 text)
      · rw [supplies.unique suppliesOther, refused]
        rfl
  · rw [readExpression_of_misuses misuses, Except.error.injEq]
    constructor
    · exact fun same => Or.inl ⟨misuses, same.symm⟩
    · rintro (⟨_, same⟩ | ⟨text, supplies, _⟩)
      · exact same.symm
      · exact absurd supplies (misuses.2 text)

end Expression

namespace ParsedArguments

/-- What the argument `filter` comes to. -/
def readFilter (table : String) :
    Option FilterCondition → Option Json →
      Except ExpressionError (Option FilterCondition) :=
  readExpression "filter" (FilterCondition.parse · table)

/-- What the argument `pagination` comes to. -/
def readPagination (table : String) :
    Option Pagination → Option Json →
      Except ExpressionError (Option Pagination) :=
  readExpression "pagination" fun text => .ok (Pagination.parse text table)

variable {parsed : ParsedArguments} {name : String} {arguments : Arguments}

/-! ## One argument -/

theorem accept_filter_eq (value : Json) :
    parsed.accept "filter" value =
      (readFilter parsed.table parsed.filter (some value)).map
        fun filter => { parsed with filter } := by
  cases value with
  | string text =>
      have acceptEq : parsed.accept "filter" (.string text) =
          (FilterCondition.parse text parsed.table).map
            fun condition => { parsed with filter := some condition } := rfl
      have readEq : readFilter parsed.table parsed.filter
          (some (.string text)) =
            (FilterCondition.parse text parsed.table).map some := rfl
      rw [acceptEq, readEq]
      cases FilterCondition.parse text parsed.table <;> rfl
  | _ => rfl

theorem accept_pagination_eq (value : Json) :
    parsed.accept "pagination" value =
      (readPagination parsed.table parsed.pagination (some value)).map
        fun pagination => { parsed with pagination } := by
  cases value with
  | _ => rfl

theorem accept_other (noFilter : name ≠ "filter")
    (noPagination : name ≠ "pagination") (value : Json) :
    parsed.accept name value =
      .ok { parsed with rest := Members.insert name value parsed.rest } := by
  rw [accept, if_neg noFilter, if_neg noPagination]

/-! ## All arguments -/

/-- Arguments read one by one come to the filter, the pagination and the other
arguments, each read on its own. -/
theorem acceptAll_eq (parsed : ParsedArguments)
    (ascending : Members.Ascending arguments) :
    parsed.acceptAll arguments = do
      let filter ← readFilter parsed.table parsed.filter
        (arguments.get? "filter")
      let pagination ← readPagination parsed.table parsed.pagination
        (arguments.get? "pagination")
      return ⟨parsed.table, filter, pagination,
        parsed.rest.insertAll arguments.others⟩ := by
  induction arguments generalizing parsed with
  | nil => rfl
  | cons argument rest inductionHypothesis =>
      obtain ⟨name, value⟩ := argument
      have restEq (parsed : ParsedArguments) :=
        inductionHypothesis parsed ascending.tail
      have nameAbsent : Members.get? rest name = none :=
        Members.get?_of_notMem ascending.head_notMem
      rw [acceptAll]
      by_cases isFilter : name = "filter"
      · subst isFilter
        rw [accept_filter_eq, Members.get?_cons_self,
          Members.get?_cons_of_ne (by decide)]
        cases readFilter parsed.table parsed.filter (some value) with
        | error fault => rfl
        | ok filter =>
            dsimp only [Except.map]
            rw [restEq, nameAbsent]
            rfl
      · by_cases isPagination : name = "pagination"
        · subst isPagination
          -- The filter would stand in front of the pagination.
          have noFilter :
              Members.get? (("pagination", value) :: rest) "filter" = none :=
            Members.get?_of_notMem (ascending.notMem_of_lt (by decide))
          have noFilterBehind : Members.get? rest "filter" = none := by
            rwa [Members.get?_cons_of_ne (by decide)] at noFilter
          rw [accept_pagination_eq, noFilter, Members.get?_cons_self]
          cases readPagination parsed.table parsed.pagination
              (some value) with
          | error fault => rfl
          | ok pagination =>
              dsimp only [Except.map]
              rw [restEq, nameAbsent, noFilterBehind]
              rfl
        · have othersEq : Arguments.others ((name, value) :: rest) =
              (name, value) :: Arguments.others rest := by
            simp [Arguments.others, isFilter, isPagination]
          rw [accept_other isFilter isPagination,
            Members.get?_cons_of_ne isFilter,
            Members.get?_cons_of_ne isPagination, othersEq]
          exact restEq _

theorem parse_eq (table : String) (arguments : OrderedMembers) :
    parse table arguments = do
      let filter ← readFilter table none (arguments.members.get? "filter")
      let pagination ←
        readPagination table none (arguments.members.get? "pagination")
      return ⟨table, filter, pagination, Arguments.others arguments⟩ := by
  have othersEq : Members.insertAll [] (Arguments.others arguments) =
      Arguments.others arguments :=
    Members.Ascending.ofList_eq (arguments.ascending.filter _)
  have read := acceptAll_eq (empty table) arguments.ascending
  dsimp only [empty] at read
  rwa [othersEq] at read

/-! ## What is read, and what is refused -/

theorem parse_eq_ok_iff (table : String) (arguments : OrderedMembers) :
    parse table arguments = .ok parsed ↔
      parsed.table = table ∧
        Arguments.Finds arguments "filter" (FilterCondition.parse · table)
          parsed.filter ∧
        Arguments.Finds arguments "pagination"
          (fun text => .ok (Pagination.parse text table))
          parsed.pagination ∧
        parsed.rest = Arguments.others arguments := by
  obtain ⟨target, filter, pagination, rest⟩ := parsed
  rw [parse_eq, ← readExpression_eq_ok_iff, ← readExpression_eq_ok_iff]
  unfold readFilter readPagination
  cases readExpression "filter" (FilterCondition.parse · table) none
      (arguments.members.get? "filter") with
  | error fault => simp [bind, Except.bind]
  | ok filter =>
      cases readExpression "pagination"
          (fun text => .ok (Pagination.parse text table)) none
          (arguments.members.get? "pagination") with
      | error fault => simp [bind, Except.bind]
      | ok pagination =>
          simp [bind, Except.bind, pure, Except.pure, eq_comm]

theorem parse_eq_error_iff (table : String) (arguments : OrderedMembers)
    (fault : ExpressionError) :
    parse table arguments = .error fault ↔
      Arguments.Fails arguments "filter" (FilterCondition.parse · table)
          fault ∨
        (∀ filterFault,
          ¬Arguments.Fails arguments "filter"
            (FilterCondition.parse · table) filterFault) ∧
        Arguments.Misuses arguments "pagination" ∧
        fault = .notAString "pagination" := by
  have paginationFails :
      Arguments.Fails arguments "pagination"
          (fun text => .ok (Pagination.parse text table)) fault ↔
        Arguments.Misuses arguments "pagination" ∧
          fault = .notAString "pagination" := by
    simp [Arguments.Fails]
  rw [parse_eq, ← paginationFails]
  simp only [← readExpression_eq_error_iff]
  unfold readFilter readPagination
  cases readExpression "filter" (FilterCondition.parse · table) none
      (arguments.members.get? "filter") with
  | error fault => simp [bind, Except.bind]
  | ok filter =>
      cases readExpression "pagination"
          (fun text => .ok (Pagination.parse text table)) none
          (arguments.members.get? "pagination") with
      | error fault => simp [bind, Except.bind]
      | ok pagination => simp [bind, Except.bind, pure, Except.pure]

/-- What it takes for arguments to be read, what is then found in them, and whose
fault is reported otherwise. -/
structure Reads (table : String) (arguments : Arguments)
    (outcome : Except ExpressionError ParsedArguments) : Prop where
  succeeds_iff : (∃ parsed, outcome = .ok parsed) ↔
    (arguments.Lacks "filter" ∨
      ∃ text condition, arguments.Supplies "filter" text ∧
        FilterCondition.parse text table = .ok condition) ∧
    (arguments.Lacks "pagination" ∨
      ∃ text, arguments.Supplies "pagination" text)
  finds : ∀ parsed, outcome = .ok parsed →
    parsed.table = table ∧
      arguments.Finds "filter" (FilterCondition.parse · table)
        parsed.filter ∧
      arguments.Finds "pagination"
        (fun text => .ok (Pagination.parse text table)) parsed.pagination ∧
      parsed.rest = arguments.others
  fails_iff : ∀ fault, outcome = .error fault ↔
    arguments.Fails "filter" (FilterCondition.parse · table) fault ∨
      (∀ filterFault,
        ¬arguments.Fails "filter" (FilterCondition.parse · table)
          filterFault) ∧
      arguments.Misuses "pagination" ∧ fault = .notAString "pagination"

/-- Arguments are read exactly if each expression can be read or is not supplied.
The filter and the pagination are then what their texts are read as, and the other
arguments are left as they are; otherwise a fault of the filter is reported, and one
of the pagination if the filter has none. -/
theorem parse_reads (table : String) (arguments : OrderedMembers) :
    Reads table arguments (parse table arguments) := by
  refine ⟨?succeeds, ?finds, parse_eq_error_iff table arguments⟩
  case succeeds =>
    have paginationFound := Arguments.exists_finds_iff arguments "pagination"
      fun text => .ok (Pagination.parse text table)
    simp only [Except.ok.injEq, exists_and_left, exists_eq', and_true]
      at paginationFound
    rw [← paginationFound, ← Arguments.exists_finds_iff]
    constructor
    · rintro ⟨parsed, read⟩
      obtain ⟨_, filter, pagination, _⟩ :=
        (parse_eq_ok_iff table arguments).mp read
      exact ⟨⟨_, filter⟩, ⟨_, pagination⟩⟩
    · rintro ⟨⟨filter, filterFound⟩, ⟨pagination, paginationFound⟩⟩
      exact ⟨⟨table, filter, pagination, Arguments.others arguments⟩,
        (parse_eq_ok_iff table arguments).mpr
          ⟨rfl, filterFound, paginationFound, rfl⟩⟩
  case finds =>
    exact fun _ => (parse_eq_ok_iff table arguments).mp

/-- Arguments in which neither expression can be read. -/
def faultyArguments : OrderedMembers where
  members :=
    [("_debug", .bool true), ("filter", .string "=1"),
      ("pagination", .ofInt 5)]
  ascending := by decide

/-- The fault that is reported for them is that of the filter. -/
theorem parse_reads_faulty :
    Reads "item" faultyArguments (parse "item" faultyArguments) ∧
      parse "item" faultyArguments = .error (.emptyField "item" "=1") :=
  ⟨parse_reads "item" faultyArguments, by cbv⟩

end ParsedArguments

end TableGateway
