import TableGateway.Proofs.ReadArguments

/-!
# Arguments with another pagination

The pagination is read from one argument and has no influence on how the others
are read: writing another pagination text among the arguments changes the
pagination and nothing else (`ParsedArguments.parse_withPagination`). Whatever the
arguments are, what is read from them is on their table
(`ParsedArguments.isOnTable_of_parse`).
-/

namespace TableGateway

/-- The value of an argument that must be a text. -/
def Json.text? : Json → Option String
  | .string text => some text
  | _ => none

/-- A member that is left out may be written before it is. -/
theorem Members.filter_insert {key : String} {keep : String × Json → Bool}
    (dropped : ∀ value, keep (key, value) = false) (value : Json)
    (members : Members) :
    (insert key value members).filter keep = members.filter keep := by
  induction members with
  | nil => simp [insert, dropped]
  | cons member rest inductionHypothesis =>
      obtain ⟨head, old⟩ := member
      by_cases before : key < head
      · simp [insert, before, dropped]
      · by_cases here : key = head
        · subst here
          simp [insert, dropped]
        · simp [insert, before, here, List.filter_cons, inductionHypothesis]

namespace Arguments

/-- The text of the pagination, if there is one. -/
def paginationText? (arguments : Arguments) : Option String :=
  (arguments.get? "pagination").bind (·.text?)

/-- What the pagination text says; nothing if there is none. -/
def pagination (table : String) (arguments : Arguments) : Pagination :=
  match arguments.paginationText? with
  | none => .empty table
  | some text => .parse text table

/-- Arguments with a pagination text in place of the one they have. -/
def withPagination (arguments : Arguments) (text : String) : Arguments :=
  Members.insert "pagination" (.string text) arguments

variable {arguments : Arguments}

theorem paginationText?_of_lacks (lacks : arguments.Lacks "pagination") :
    arguments.paginationText? = none := by
  unfold paginationText?
  rcases lacks with absent | null
  · rw [absent]
    rfl
  · rw [null]
    rfl

theorem paginationText?_of_supplies {text : String}
    (supplies : arguments.Supplies "pagination" text) :
    arguments.paginationText? = some text := by
  unfold paginationText?
  rw [supplies]
  rfl

theorem get?_withPagination (arguments : Arguments) (text name : String) :
    (arguments.withPagination text).get? name =
      if name = "pagination" then some (.string text)
      else arguments.get? name :=
  Members.get?_insert "pagination" name (.string text) arguments

theorem others_withPagination (arguments : Arguments) (text : String) :
    (arguments.withPagination text).others = arguments.others :=
  Members.filter_insert (by simp) (.string text) arguments

/-- What is found under a name depends on what stands under it only. -/
theorem Finds.congr {value : Type} {other : Arguments} {name : String}
    {read : String → Except ExpressionError value} {found : Option value}
    (finds : arguments.Finds name read found)
    (same : other.get? name = arguments.get? name) :
    other.Finds name read found := by
  unfold Finds Lacks Supplies at finds ⊢
  rwa [same]

end Arguments

namespace ParsedArguments

/-- What arguments say about pages; nothing if they have no pagination. -/
def paging (parsed : ParsedArguments) : Pagination :=
  parsed.pagination.getD (.empty parsed.table)

variable {parsed next result : ParsedArguments} {name table : String}
  {value : Json} {arguments : Arguments}

/-! ## The table of what is read -/

/-- Arguments that are read for a table have that table, and so has their filter
if there is one. -/
structure IsOnTable (table : String) (parsed : ParsedArguments) : Prop where
  table_eq : parsed.table = table
  filter_table : ∀ condition, parsed.filter = some condition →
    condition.table = table

theorem filter_table_of_readFilter {before found : Option FilterCondition}
    (onTable : ∀ condition, before = some condition → condition.table = table)
    (read : readFilter table before (some value) = .ok found) :
    ∀ condition, found = some condition → condition.table = table := by
  unfold readFilter readExpression at read
  cases value with
  | null =>
      cases read
      exact onTable
  | string text =>
      dsimp only [FilterCondition.parse] at read
      cases clauses : FilterCondition.parseSegments table
          (segments ';' text.toList) with
      | error fault =>
          rw [clauses] at read
          nomatch read
      | ok found =>
          rw [clauses] at read
          cases read
          rintro _ ⟨⟩
          rfl
  | bool _ | number _ | array _ | object _ => nomatch read

theorem IsOnTable.accept (onTable : parsed.IsOnTable table)
    (accepted : parsed.accept name value = .ok next) :
    next.IsOnTable table := by
  obtain ⟨tableEq, filterTable⟩ := onTable
  by_cases isFilter : name = "filter"
  · rw [isFilter, accept_filter_eq, tableEq] at accepted
    cases read : readFilter table parsed.filter (some value) with
    | error fault =>
        rw [read] at accepted
        nomatch accepted
    | ok filter =>
        rw [read] at accepted
        cases accepted
        exact ⟨rfl, filter_table_of_readFilter filterTable read⟩
  · by_cases isPagination : name = "pagination"
    · rw [isPagination, accept_pagination_eq] at accepted
      cases read : readPagination parsed.table parsed.pagination
          (some value) with
      | error fault =>
          rw [read] at accepted
          nomatch accepted
      | ok pagination =>
          rw [read] at accepted
          cases accepted
          exact ⟨tableEq, filterTable⟩
    · rw [accept_other isFilter isPagination] at accepted
      cases accepted
      exact ⟨tableEq, filterTable⟩

theorem IsOnTable.acceptAll (onTable : parsed.IsOnTable table)
    (accepted : parsed.acceptAll arguments = .ok result) :
    result.IsOnTable table := by
  induction arguments generalizing parsed with
  | nil =>
      cases accepted
      exact onTable
  | cons argument others inductionHypothesis =>
      obtain ⟨name, value⟩ := argument
      rw [ParsedArguments.acceptAll] at accepted
      cases first : parsed.accept name value with
      | error fault =>
          rw [first] at accepted
          cases accepted
      | ok next =>
          rw [first] at accepted
          exact inductionHypothesis (onTable.accept first) accepted

theorem isOnTable_of_parse (read : parse table arguments = .ok parsed) :
    parsed.IsOnTable table := by
  have noFilter : (empty table).IsOnTable table := ⟨rfl, nofun⟩
  exact noFilter.acceptAll read

/-! ## The pagination of what is read -/

section Ordered

variable {arguments : OrderedMembers}

theorem parse_pagination (read : parse table arguments = .ok parsed) :
    parsed.pagination =
      (Arguments.paginationText? arguments).map
        (Pagination.parse · table) := by
  obtain ⟨_, _, found, _⟩ := (parse_eq_ok_iff table arguments).mp read
  rcases found with ⟨lacks, none⟩ | ⟨text, _, supplies, ⟨⟩, given⟩
  · rw [none, Arguments.paginationText?_of_lacks lacks]
    rfl
  · rw [given, Arguments.paginationText?_of_supplies supplies]
    rfl

theorem paging_of_parse (read : parse table arguments = .ok parsed) :
    parsed.paging = Arguments.pagination table arguments := by
  unfold paging Arguments.pagination
  rw [parse_pagination read, (isOnTable_of_parse read).table_eq]
  cases Arguments.paginationText? arguments with
  | none => rfl
  | some text => rfl

/-- Another pagination text changes the pagination and nothing else. -/
theorem parse_withPagination (read : parse table arguments = .ok parsed)
    (text : String) :
    parse table (Arguments.withPagination arguments text) =
      .ok { parsed with pagination := some (Pagination.parse text table) } := by
  let after : OrderedMembers :=
    ⟨Arguments.withPagination arguments text,
      arguments.ascending.insert "pagination" (.string text)⟩
  have supplies : Arguments.Supplies after "pagination" text :=
    Arguments.get?_withPagination arguments text "pagination"
  have filterKept :
      after.members.get? "filter" = arguments.members.get? "filter" :=
    Arguments.get?_withPagination arguments text "filter"
  obtain ⟨tableEq, filter, _, restEq⟩ :=
    (parse_eq_ok_iff table arguments).mp read
  exact (parse_eq_ok_iff table after).mpr
    ⟨tableEq, filter.congr filterKept,
      Or.inr ⟨text, _, supplies, rfl, rfl⟩,
      restEq.trans (Arguments.others_withPagination arguments text).symm⟩

end Ordered

end ParsedArguments

end TableGateway
