import TableGateway.Proofs.Resolver.Narrowing
import TableGateway.Proofs.Resolver.Paging

/-!
# Limits of pages

The limit by default stands in for an entry that a pagination does not have. An
entry that is there is left as it is, and sets no limit unless it is a number.
`ParsedArguments.length_stretch_withDefaultLimit` says how many records a page
holds; the total does not depend on the pagination at all.
-/

namespace TableGateway

/-! ## The limit that counts -/

namespace Pagination

/-- The limit that counts: the one by default where no entry is given. -/
def limitOr? (size : Nat) (pagination : Pagination) : Option Nat :=
  if pagination.contains "limit" then pagination.limit? else some size

variable {size : Nat} {pagination : Pagination}

theorem limitOr?_of_limit? {limit : Nat}
    (given : pagination.limit? = some limit) :
    pagination.limitOr? size = some limit := by
  have present : pagination.contains "limit" = true := by
    obtain ⟨text, found, _⟩ := Option.bind_eq_some_iff.mp given
    rw [contains, found]
    rfl
  rw [limitOr?, if_pos present, given]

end Pagination

namespace Crud

variable (size : Nat) (pagination : Pagination)

theorem get?_limited_of_ne {key : String} (different : key ≠ "limit") :
    (limited size pagination).get? key = pagination.get? key := by
  unfold limited
  split
  · rfl
  · rw [Pagination.get?_set, if_neg different]

theorem offset?_limited :
    (limited size pagination).offset? = pagination.offset? := by
  rw [Pagination.offset?, get?_limited_of_ne size pagination (by decide),
    Pagination.offset?]

theorem orderBy?_limited :
    (limited size pagination).orderBy? = pagination.orderBy? := by
  rw [Pagination.orderBy?, get?_limited_of_ne size pagination (by decide),
    Pagination.orderBy?]

variable {size} in
theorem limit?_limited (readable : size ≤ wordMax) :
    (limited size pagination).limit? = pagination.limitOr? size := by
  unfold limited Pagination.limitOr?
  split
  · rfl
  · rw [Pagination.limit?, Pagination.get?_set, if_pos rfl,
      Option.bind_some, String.toList_ofList, readWord?_decimalDigits]
    simpa using readable

end Crud

/-! ## Parsed arguments -/

namespace ParsedArguments

variable (parsed : ParsedArguments) (rows : List Json)

/-- What is read from the pagination is read from an empty one where there is
none. -/
theorem bind_pagination {Value : Type} (read : Pagination → Option Value)
    (silent : read (.empty parsed.table) = none) :
    parsed.pagination.bind read = read parsed.paging := by
  unfold paging
  cases parsed.pagination with
  | none => exact silent.symm
  | some pagination => rfl

theorem length_select :
    (parsed.select rows).length = (parsed.matching rows).length :=
  (parsed.select_perm rows).length_eq

theorem length_stretch :
    (parsed.stretch rows).length =
      match parsed.paging.limit? with
      | none => rows.length - parsed.paging.offset?.getD 0
      | some limit =>
          min limit (rows.length - parsed.paging.offset?.getD 0) := by
  unfold stretch
  rw [parsed.bind_pagination (·.offset?) rfl,
    parsed.bind_pagination (·.limit?) rfl]
  cases parsed.paging.limit? with
  | none => exact List.length_drop
  | some limit => rw [List.length_take, List.length_drop]

theorem select_withDefaultLimit (size : Nat) :
    (Crud.withDefaultLimit (some size) parsed).select rows =
      parsed.select rows := by
  refine select_withPagination ?_
  rw [Crud.orderBy?_limited, parsed.bind_pagination (·.orderBy?) rfl]
  rfl

/-- A page holds as many records as its limit allows, or all behind its offset
if it has no limit. -/
theorem length_stretch_withDefaultLimit {size : Nat}
    (readable : size ≤ wordMax) :
    ((Crud.withDefaultLimit (some size) parsed).stretch rows).length =
      match parsed.paging.limitOr? size with
      | none => rows.length - parsed.paging.offset?.getD 0
      | some limit =>
          min limit (rows.length - parsed.paging.offset?.getD 0) := by
  have pagingEq : (Crud.withDefaultLimit (some size) parsed).paging =
      Crud.limited size parsed.paging := rfl
  rw [length_stretch, pagingEq, Crud.limit?_limited _ readable,
    Crud.offset?_limited]

/-! ## Narrowing -/

/-- A way to narrow arguments that has nothing to do with their pagination. -/
structure KeepsPagination (narrow : ParsedArguments → ParsedArguments) :
    Prop where
  table_eq : ∀ parsed, (narrow parsed).table = parsed.table
  withPagination : ∀ parsed pagination,
    narrow { parsed with pagination := pagination } =
      { narrow parsed with pagination := pagination }

theorem KeepsPagination.paging_eq
    {narrow : ParsedArguments → ParsedArguments}
    (keeps : KeepsPagination narrow) (parsed : ParsedArguments) :
    (narrow parsed).paging = parsed.paging := by
  have paginationEq : (narrow parsed).pagination = parsed.pagination :=
    congrArg (·.pagination) (keeps.withPagination parsed parsed.pagination)
  unfold paging
  rw [paginationEq, keeps.table_eq]

theorem keepsPagination_id : KeepsPagination id :=
  ⟨fun _ => rfl, fun _ _ => rfl⟩

end ParsedArguments

theorem Relation.keepsPagination_narrowed (relation : Relation)
    (text : String) :
    ParsedArguments.KeepsPagination (relation.narrowed text) :=
  ⟨fun _ => rfl, fun _ _ => rfl⟩

/-! ## Pages of a store -/

namespace Store

variable {nested : NestedResolve Store} {session : Session Store}
  {table : String} {arguments : Arguments}
  {narrow : ParsedArguments → ParsedArguments}

/-- A page that was fetched for unread arguments: they were read, the table is
there, and the total is the number of rows that match. -/
theorem exists_page_of_run {size : Nat} {value : Json}
    (returned :
      ((Program.withArguments table arguments fun parsed =>
          Crud.fetchPage (some size) table (narrow parsed)).run driver nested
            session).1 =
        some (.ok value)) :
    ∃ parsed stored,
      ParsedArguments.parse table arguments = .ok parsed ∧
      session.database.table? table = some stored ∧
      value = Crud.pageValue table
        ((narrow parsed).matching (session.database.rows table)).length
        ((Crud.withDefaultLimit (some size) (narrow parsed)).stretch
          ((narrow parsed).select (session.database.rows table))) := by
  unfold Program.withArguments at returned
  cases read : ParsedArguments.parse table arguments with
  | error fault =>
      rw [read] at returned
      nomatch returned
  | ok parsed =>
      rw [read] at returned
      dsimp only at returned
      rw [run_fetchPage] at returned
      cases known : session.database.table? table with
      | none =>
          rw [select_of_unknown known] at returned
          nomatch returned
      | some stored =>
          rw [select_of_known known] at returned
          have valueEq := Except.ok.inj (Option.some.inj returned)
          rw [ParsedArguments.select_withDefaultLimit,
            ParsedArguments.length_select] at valueEq
          exact ⟨parsed, stored, rfl, rfl, valueEq.symm⟩

/-- Under another pagination text the total is the same. -/
theorem argumentsOutcome_withPagination {store : Store}
    {stored : StoredTable} {arguments : OrderedMembers}
    {parsed : ParsedArguments}
    (keeps : ParsedArguments.KeepsPagination narrow)
    (known : store.table? table = some stored)
    (read : ParsedArguments.parse table arguments = .ok parsed)
    (text : String) :
    ∃ items,
      store.argumentsOutcome table (Arguments.withPagination arguments text)
          narrow =
        .ok (Crud.pageValue table
          ((narrow parsed).matching (store.rows table)).length items) ∧
      ((Pagination.parse text table).limit? = none →
        (Pagination.parse text table).offset? = none →
        items.length =
          ((narrow parsed).matching (store.rows table)).length) := by
  have readText := ParsedArguments.parse_withPagination read text
  let other : ParsedArguments :=
    { narrow parsed with pagination := some (Pagination.parse text table) }
  have selected : (other.select (store.rows table)).length =
      ((narrow parsed).matching (store.rows table)).length :=
    other.length_select (store.rows table)
  refine ⟨other.stretch (other.select (store.rows table)), ?_, ?_⟩
  · unfold argumentsOutcome pageOutcome
    rw [readText, ← selected]
    dsimp only
    rw [keeps.withPagination, select_of_known known]
  · intro noLimit noOffset
    have whole : other.stretch (other.select (store.rows table)) =
        other.select (store.rows table) :=
      ParsedArguments.stretch_eq_self noLimit noOffset
    rw [whole, selected]

end Store

end TableGateway
