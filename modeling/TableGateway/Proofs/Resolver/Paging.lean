import TableGateway.Proofs.Arguments
import TableGateway.Proofs.Pagination
import TableGateway.Proofs.Store.Selecting

/-!
# Pages, end to end

A page is a stretch of the list of records that the filter and the order
select; the filter and the order do not depend on where the page lies. The main
statement is `Store.pagesOut_of_parse`: pages of one size, one behind the other,
are that list, and every page reports its length.
-/

namespace TableGateway

universe u

/-! ## Stretches of a list -/

/-- The stretches of one size from the start of a list, one behind the other,
are the start of the list. -/
theorem flatMap_stretches {Item : Type u} (items : List Item)
    (size count : Nat) :
    (List.range count).flatMap
        (fun index => (items.drop (index * size)).take size) =
      items.take (count * size) := by
  induction count with
  | zero => simp
  | succ count inductionHypothesis =>
      rw [List.range_succ, List.flatMap_append, inductionHypothesis,
        Nat.succ_mul, List.take_add]
      simp

/-- How many pages of a size a number of records fills. -/
def pageCount (total size : Nat) : Nat :=
  (total + size - 1) / size

theorem le_pageCount_mul {total size : Nat} (positive : 0 < size) :
    total ≤ pageCount total size * size := by
  have divided := Nat.div_add_mod (total + size - 1) size
  have remainder := Nat.mod_lt (total + size - 1) positive
  rw [Nat.mul_comm] at divided
  unfold pageCount
  omega

theorem mul_lt_of_lt_pageCount {total size index : Nat}
    (positive : 0 < size) (within : index < pageCount total size) :
    index * size < total := by
  have enough : (index + 1) * size ≤ total + size - 1 :=
    (Nat.le_div_iff_mul_le positive).mp within
  rw [Nat.succ_mul] at enough
  omega

/-! ## Selections under another pagination -/

namespace ParsedArguments

variable {parsed : ParsedArguments} {rows : List Json}

/-- Only the order among the things that a pagination says bears on which
records are selected. -/
theorem select_withPagination {pagination : Pagination}
    (sameOrder :
      pagination.orderBy? = parsed.pagination.bind (·.orderBy?)) :
    { parsed with pagination := some pagination }.select rows =
      parsed.select rows := by
  unfold select ordered matching
  dsimp only [Option.bind_some]
  rw [sameOrder]

theorem length_select_le : (parsed.select rows).length ≤ rows.length := by
  rw [(parsed.select_perm rows).length_eq]
  unfold matching
  split
  · exact Nat.le_refl _
  · exact List.length_filter_le _ _

theorem stretch_pageText (limit : Nat) {offset : Nat}
    (others : Option String) (table : String)
    (readable : offset ≤ wordMax) (short : rows.length ≤ wordMax) :
    { parsed with
        pagination := some (Pagination.parse
          (Pagination.pageText limit offset others) table) }.stretch rows =
      (rows.drop offset).take limit := by
  have offsetRead := Pagination.offset?_pageText limit offset others table
  have limitRead := Pagination.limit?_pageText limit offset others table
  rw [Option.filter_some, if_pos (by simpa using readable)] at offsetRead
  rw [Option.filter_some] at limitRead
  simp only [stretch, Option.bind_some, offsetRead, Option.getD_some,
    limitRead]
  by_cases small : limit ≤ wordMax
  · simp [small]
  · have long : (rows.drop offset).length ≤ limit := by
      rw [List.length_drop]
      omega
    simp [small, List.take_of_length_le long]

end ParsedArguments

/-! ## Answers of a store -/

namespace Arguments

/-- Arguments for the page with a limit and an offset; what else their
pagination says is kept. -/
def page (arguments : Arguments) (limit offset : Nat) : Arguments :=
  arguments.withPagination
    (Pagination.pageText limit offset arguments.paginationText?)

end Arguments

namespace Store

/-- Without a limit by default, a store answers for a page with these records
and this total, and changes nothing but the requests that it notes. -/
def AnswersPage (store : Store) (table : String) (arguments : Arguments)
    (total : Nat) (items : List Json) : Prop :=
  ∀ (nested : NestedResolve Store) (session : Session Store),
    session.database.clearCalls = store.clearCalls →
    ∃ after : Session Store,
      (Crud.getPage none table arguments).run driver nested session =
        (some (.ok (Crud.pageValue table total items)), after) ∧
      after.database.clearCalls = store.clearCalls

/-- A store answers for the first record with this value. -/
def AnswersFirst (store : Store) (table : String) (arguments : Arguments)
    (record : Json) : Prop :=
  ∀ (nested : NestedResolve Store) (session : Session Store),
    session.database.clearCalls = store.clearCalls →
    ∃ after : Session Store,
      (Crud.getFirst table arguments).run driver nested session =
        (some (.ok record), after) ∧
      after.database.clearCalls = store.clearCalls

/-- A list of records is what arguments select, in whatever pages it is
fetched. -/
structure PagesOut (store : Store) (table : String) (arguments : Arguments)
    (order : Option OrderBy) (items : List Json) : Prop where
  whole : store.AnswersPage table arguments items.length items
  pages : ∀ size, 0 < size → ∃ page : Nat → List Json,
    (∀ index < pageCount items.length size,
      store.AnswersPage table (arguments.page size (index * size))
        items.length (page index)) ∧
    (List.range (pageCount items.length size)).flatMap page = items
  page : ∀ limit ≤ wordMax, ∀ offset ≤ wordMax,
    store.AnswersPage table (arguments.page limit offset) items.length
        ((items.drop offset).take limit) ∧
      ((items.drop offset).take limit).length =
        min limit (items.length - offset)
  first : store.AnswersFirst table arguments (items.head?.getD .null)
  first_paged : ∀ text,
    (Pagination.parse text table).orderBy? = order →
    store.AnswersFirst table (arguments.withPagination text)
      (items.head?.getD .null)
  first_null_iff : items.head?.getD .null = .null ↔ items.length = 0

variable {store : Store} {table : String} {stored : StoredTable}
  {arguments : Arguments} {parsed : ParsedArguments}

theorem answersPage_of_parse (known : store.table? table = some stored)
    (read : ParsedArguments.parse table arguments = .ok parsed) :
    store.AnswersPage table arguments
      (parsed.select (store.rows table)).length
      (parsed.stretch (parsed.select (store.rows table))) := by
  intro nested session same
  have fetched := run_fetchPage nested session none table parsed
  rw [Crud.withDefaultLimit, select_of_same same, select_of_known known]
    at fetched
  have kept := clearCalls_run_fetchPage nested session none table parsed
  rw [Crud.getPage, Program.withArguments, read]
  exact ⟨_, Prod.ext fetched rfl, kept.trans same⟩

theorem answersFirst_of_parse (known : store.table? table = some stored)
    (read : ParsedArguments.parse table arguments = .ok parsed) :
    store.AnswersFirst table arguments
      ((parsed.select (store.rows table)).head?.getD .null) := by
  intro nested session same
  have fetched := run_fetchFirst nested session table parsed
  rw [select_of_same same, select_of_known known] at fetched
  have kept := clearCalls_run_fetchFirst nested session table parsed
  rw [Crud.getFirst, Program.withArguments, read]
  exact ⟨_, Prod.ext fetched rfl, kept.trans same⟩

section Ordered

variable {arguments : OrderedMembers}

/-- The order of a page is that of the arguments it was made from. -/
theorem orderBy?_page
    (read : ParsedArguments.parse table arguments = .ok parsed)
    (limit offset : Nat) :
    (Pagination.parse (Pagination.pageText limit offset
        (Arguments.paginationText? arguments)) table).orderBy? =
      parsed.pagination.bind (·.orderBy?) := by
  rw [Pagination.orderBy?_pageText, ParsedArguments.parse_pagination read,
    Option.bind_map]
  rfl

theorem answersPage_page (known : store.table? table = some stored)
    (read : ParsedArguments.parse table arguments = .ok parsed)
    (short : (store.rows table).length ≤ wordMax)
    (limit : Nat) {offset : Nat} (readable : offset ≤ wordMax) :
    store.AnswersPage table (Arguments.page arguments limit offset)
      (parsed.select (store.rows table)).length
      (((parsed.select (store.rows table)).drop offset).take limit) := by
  have answered := answersPage_of_parse known
    (ParsedArguments.parse_withPagination read
      (Pagination.pageText limit offset
        (Arguments.paginationText? arguments)))
  have selectedShort :
      (parsed.select (store.rows table)).length ≤ wordMax :=
    ParsedArguments.length_select_le.trans short
  rwa [ParsedArguments.select_withPagination
      (orderBy?_page read limit offset),
    ParsedArguments.stretch_pageText limit _ _ readable selectedShort]
    at answered

/-- Paging loses no record and repeats none, and finds the same first record.
A list in memory is no longer than a word counts. -/
theorem pagesOut_of_parse (known : store.table? table = some stored)
    (objects : ∀ row ∈ store.rows table, ∃ members, row = .object members)
    (short : (store.rows table).length ≤ wordMax)
    (read : ParsedArguments.parse table arguments = .ok parsed)
    (noLimit : parsed.pagination.bind (·.limit?) = none)
    (noOffset : parsed.pagination.bind (·.offset?) = none) :
    ∃ items, store.PagesOut table arguments
      (parsed.pagination.bind (·.orderBy?)) items := by
  have selectedShort :
      (parsed.select (store.rows table)).length ≤ wordMax :=
    ParsedArguments.length_select_le.trans short
  refine ⟨parsed.select (store.rows table), ?_, ?_, ?_, ?_, ?_, ?_⟩
  · have answered := answersPage_of_parse known read
    rwa [ParsedArguments.stretch_eq_self noLimit noOffset] at answered
  · intro size positive
    refine ⟨fun index =>
      ((parsed.select (store.rows table)).drop (index * size)).take size,
      ?_, ?_⟩
    · intro index within
      have inside := mul_lt_of_lt_pageCount positive within
      exact answersPage_page known read short size
        (inside.le.trans selectedShort)
    · rw [flatMap_stretches]
      exact List.take_of_length_le (le_pageCount_mul positive)
  · intro limit _ offset readable
    refine ⟨answersPage_page known read short limit readable, ?_⟩
    rw [List.length_take, List.length_drop]
  · exact answersFirst_of_parse known read
  · intro text sameOrder
    have answered := answersFirst_of_parse known
      (ParsedArguments.parse_withPagination read text)
    rwa [ParsedArguments.select_withPagination sameOrder] at answered
  · rw [List.length_eq_zero_iff]
    cases selected : parsed.select (store.rows table) with
    | nil => simp
    | cons first rest =>
        have member : first ∈ parsed.select (store.rows table) := by
          rw [selected]
          exact List.mem_cons_self
        obtain ⟨members, rfl⟩ :=
          objects first (ParsedArguments.mem_of_mem_select member)
        simp

end Ordered

/-! ## Pages of a small table -/

def peopleTable : StoredTable :=
  ⟨⟨"person", [⟨"id", "serial", none⟩, ⟨"age", "int", none⟩], []⟩, "id"⟩

def peopleRows : List Json :=
  [.object [("age", .ofInt 30), ("id", .ofInt 1)],
    .object [("id", .ofInt 2)],
    .object [("age", .ofInt 7), ("id", .ofInt 3)],
    .object [("age", .ofInt 30), ("id", .ofInt 4)]]

def peopleStore : Store :=
  (Store.empty.withTable peopleTable.metadata "id").setRows "person"
    peopleRows

/-- A filter, and an order behind a limit that is not a number. -/
def peopleArguments : OrderedMembers where
  members :=
    [("filter", .string "id >= 2"),
      ("pagination", .string "limit=all;orderby=age desc")]
  ascending := by decide

theorem pagesOut_peopleArguments :
    peopleStore.table? "person" = some peopleTable ∧
      ∃ items, peopleStore.PagesOut "person" peopleArguments
        (some ⟨"age", false⟩) items := by
  have known : peopleStore.table? "person" = some peopleTable := rfl
  have rowsEq : peopleStore.rows "person" = peopleRows := rfl
  have objects : ∀ row ∈ peopleStore.rows "person",
      ∃ members, row = .object members := by
    simp [rowsEq, peopleRows]
  have short : (peopleStore.rows "person").length ≤ wordMax := by
    decide
  have read : ParsedArguments.parse "person" peopleArguments =
      .ok ⟨"person", some ⟨"person", [⟨"id", .atLeast, "2"⟩]⟩,
        some ⟨"person", [("limit", "all"), ("orderby", "age desc")]⟩,
        []⟩ := rfl
  exact ⟨known, pagesOut_of_parse known objects short read rfl rfl⟩

end Store

end TableGateway
