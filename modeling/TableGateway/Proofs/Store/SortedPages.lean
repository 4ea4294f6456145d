import TableGateway.Proofs.Store.Selecting
import TableGateway.Proofs.Store.Sorting

/-!
# Sorted pages

A page without a limit and an offset lists the rows that satisfy the filter,
each as often as the table does. An order among numbers or among texts puts them
by size or by code point, and rows without a value behind them, or all of this
the other way round. Rows that tie stay as they are in the table. The main
statement is `Store.listsRows_page`.
-/

namespace TableGateway

/-! ## Values in order -/

namespace Json

theorem exists_number_of_kind? {value : Json}
    (isNumber : value.kind? = some .number) :
    ∃ number, value = .number number := by
  cases value with
  | number number => exact ⟨number, rfl⟩
  | null | bool _ | string _ | array _ | object _ => nomatch isNumber

theorem exists_text_of_kind? {value : Json}
    (isText : value.kind? = some .string) : ∃ text, value = .string text := by
  cases value with
  | string text => exact ⟨text, rfl⟩
  | null | bool _ | number _ | array _ | object _ => nomatch isText

theorem exists_truth_of_kind? {value : Json}
    (isTruth : value.kind? = some .bool) : ∃ truth, value = .bool truth := by
  cases value with
  | bool truth => exact ⟨truth, rfl⟩
  | null | number _ | string _ | array _ | object _ => nomatch isTruth

end Json

/-- Where rows have a field, it holds values of a kind. -/
def HoldsOnly (field : String) (kind : Json.Kind) (rows : List Json) : Prop :=
  ∀ row ∈ rows, ∀ value,
    row.present? field = some value → value.kind? = some kind

theorem HoldsOnly.of_subset {field : String} {kind : Json.Kind}
    {rows others : List Json} (holds : HoldsOnly field kind rows)
    (within : others ⊆ rows) : HoldsOnly field kind others :=
  fun row member => holds row (within member)

namespace FieldValue

/-- Whether a value may stand before another one as they ascend: numbers by the
size of their doubles, texts by code point, an absent value behind any other. -/
def mayPrecede : Option Json → Option Json → Bool
  | _, none => true
  | none, some _ => false
  | some (.number left), some (.number right) =>
      left.reading.rank ≤ right.reading.rank
  | some (.string left), some (.string right) => left ≤ right
  | some _, some _ => false

theorem isLE_compareRanks_numbers (left right : Number) :
    (compareRanks (some (.number left)) (some (.number right))).isLE =
      mayPrecede (some (.number left)) (some (.number right)) := by
  rw [Bool.eq_iff_iff]
  simp [compareRanks, compareLex, compareOn, numberRank, textRank,
    mayPrecede, Std.isLE_compare]

theorem isLE_compareRanks_texts (left right : String) :
    (compareRanks (some (.string left)) (some (.string right))).isLE =
      mayPrecede (some (.string left)) (some (.string right)) := by
  have ordered : (compare left right).isLE = true ↔ left ≤ right :=
    isLE_compareOfLessAndEq String.le_antisymm String.not_le
      String.le_total
  rw [Bool.eq_iff_iff]
  simp [compareRanks, compareLex, compareOn, numberRank, textRank,
    mayPrecede, ordered]

/-- Among numbers, or among texts, ranks are places in order. -/
theorem isLE_compareRanks {kind : Json.Kind}
    (sortable : kind = .number ∨ kind = .string) {left right : Option Json}
    (leftKind : ∀ value, left = some value → value.kind? = some kind)
    (rightKind : ∀ value, right = some value → value.kind? = some kind) :
    (compareRanks left right).isLE = mayPrecede left right := by
  cases left with
  | none => cases right <;> rfl
  | some found =>
      cases right with
      | none => rfl
      | some value =>
          have foundKind := leftKind found rfl
          have valueKind := rightKind value rfl
          rcases sortable with rfl | rfl
          · obtain ⟨number, rfl⟩ := Json.exists_number_of_kind? foundKind
            obtain ⟨other, rfl⟩ := Json.exists_number_of_kind? valueKind
            exact isLE_compareRanks_numbers number other
          · obtain ⟨text, rfl⟩ := Json.exists_text_of_kind? foundKind
            obtain ⟨other, rfl⟩ := Json.exists_text_of_kind? valueKind
            exact isLE_compareRanks_texts text other

end FieldValue

/-! ## Rows in order -/

namespace OrderBy

variable (order : OrderBy)

/-- Whether a row may stand before another one. -/
def mayPrecede (earlier later : Json) : Bool :=
  if order.ascending then
    FieldValue.mayPrecede (earlier.present? order.field)
      (later.present? order.field)
  else
    FieldValue.mayPrecede (later.present? order.field)
      (earlier.present? order.field)

/-- Whether the order leaves it open which of two rows stands first. -/
def ties (left right : Json) : Bool :=
  order.mayPrecede left right && order.mayPrecede right left

/-- The rows of a list in order, where those that tie have kept theirs. -/
structure Arranges (rows sorted : List Json) : Prop where
  perm : sorted.Perm rows
  inOrder : sorted.Pairwise fun earlier later =>
    order.mayPrecede earlier later = true
  stable : ∀ row ∈ rows,
    sorted.filter (order.ties row) = rows.filter (order.ties row)

variable {kind : Json.Kind} {rows : List Json}

theorem isLE_compareRowRanks (sortable : kind = .number ∨ kind = .string)
    (holds : HoldsOnly order.field kind rows) {left right : Json}
    (leftMember : left ∈ rows) (rightMember : right ∈ rows) :
    (order.compareRowRanks left right).isLE =
      order.mayPrecede left right := by
  have leftKind := holds left leftMember
  have rightKind := holds right rightMember
  unfold compareRowRanks mayPrecede
  split
  · exact FieldValue.isLE_compareRanks sortable leftKind rightKind
  · exact FieldValue.isLE_compareRanks sortable rightKind leftKind

theorem mayPrecede_refl (sortable : kind = .number ∨ kind = .string)
    (holds : HoldsOnly order.field kind rows) {row : Json}
    (member : row ∈ rows) : order.mayPrecede row row = true := by
  have same : FieldValue.compareRanks (row.present? order.field)
      (row.present? order.field) = .eq := Std.ReflCmp.compare_self
  rw [← order.isLE_compareRowRanks sortable holds member member,
    compareRowRanks, ite_self, same]
  rfl

theorem mayPrecede_trans (sortable : kind = .number ∨ kind = .string)
    (holds : HoldsOnly order.field kind rows) {left middle right : Json}
    (leftMember : left ∈ rows) (middleMember : middle ∈ rows)
    (rightMember : right ∈ rows)
    (first : order.mayPrecede left middle = true)
    (second : order.mayPrecede middle right = true) :
    order.mayPrecede left right = true := by
  rw [← order.isLE_compareRowRanks sortable holds leftMember middleMember]
    at first
  rw [← order.isLE_compareRowRanks sortable holds middleMember rightMember]
    at second
  rw [← order.isLE_compareRowRanks sortable holds leftMember rightMember]
  exact order.isLE_compareRowRanks_trans first second

/-- Sorting puts rows in order. -/
theorem pairwise_sort (sortable : kind = .number ∨ kind = .string)
    (holds : HoldsOnly order.field kind rows) :
    (order.sort rows).Pairwise fun earlier later =>
      order.mayPrecede earlier later = true := by
  have within : ∀ row ∈ order.sort rows, row ∈ rows :=
    fun row member => List.mem_mergeSort.mp member
  refine (order.pairwise_sort_ranks ⟨kind, holds⟩).imp_of_mem ?_
  intro left right leftMember rightMember ranked
  rwa [order.isLE_compareRowRanks sortable holds (within _ leftMember)
    (within _ rightMember)] at ranked

/-- Rows that stand in order stay where they are. -/
theorem sort_eq_self (sortable : kind = .number ∨ kind = .string)
    (holds : HoldsOnly order.field kind rows)
    (inOrder : rows.Pairwise fun earlier later =>
      order.mayPrecede earlier later = true) :
    order.sort rows = rows := by
  rw [order.sort_eq_mergeSort ⟨kind, holds⟩]
  refine List.mergeSort_of_pairwise (inOrder.imp_of_mem ?_)
  intro left right leftMember rightMember ordered
  rwa [order.isLE_compareRowRanks sortable holds leftMember rightMember]

/-- Rows that tie with one and the same row keep their order. -/
theorem filter_ties_sort (sortable : kind = .number ∨ kind = .string)
    (holds : HoldsOnly order.field kind rows) {row : Json}
    (member : row ∈ rows) :
    (order.sort rows).filter (order.ties row) =
      rows.filter (order.ties row) := by
  rw [← order.sort_filter ⟨kind, holds⟩]
  refine order.sort_eq_self sortable
    (holds.of_subset List.filter_sublist.subset) ?_
  refine List.pairwise_of_forall_mem_list ?_
  intro left leftMember right rightMember
  obtain ⟨leftMember, leftTies⟩ := List.mem_filter.mp leftMember
  obtain ⟨rightMember, rightTies⟩ := List.mem_filter.mp rightMember
  exact order.mayPrecede_trans sortable holds leftMember member rightMember
    (Bool.and_eq_true_iff.mp leftTies).2
    (Bool.and_eq_true_iff.mp rightTies).1

theorem arranges_sort (sortable : kind = .number ∨ kind = .string)
    (holds : HoldsOnly order.field kind rows) :
    order.Arranges rows (order.sort rows) where
  perm := List.mergeSort_perm _ _
  inOrder := order.pairwise_sort sortable holds
  stable _ member := order.filter_ties_sort sortable holds member

end OrderBy

/-! ## Pages of a store -/

namespace Store

/-- A page lists the rows of a table that satisfy all clauses: as they stand in
the table without an order, arranged by an order among numbers or texts. -/
structure ListsRows (store : Store) (table : String)
    (arguments : ParsedArguments) (page : List Json) : Prop where
  perm : page.Perm ((store.rows table).filter fun row =>
    arguments.clauses.all (·.isSatisfied row))
  unordered : arguments.pagination.bind (·.orderBy?) = none →
    page = (store.rows table).filter fun row =>
      arguments.clauses.all (·.isSatisfied row)
  arranged : ∀ order kind,
    arguments.pagination.bind (·.orderBy?) = some order →
    kind = .number ∨ kind = .string →
    HoldsOnly order.field kind (store.rows table) →
      order.Arranges ((store.rows table).filter fun row =>
        arguments.clauses.all (·.isSatisfied row)) page

variable {store : Store} {table : String} {stored : StoredTable}
  {arguments : ParsedArguments}

theorem listsRows_select :
    store.ListsRows table arguments
      (arguments.select (store.rows table)) where
  perm := by
    rw [← arguments.matching_eq_filter]
    exact arguments.select_perm _
  unordered absent := by
    rw [← arguments.matching_eq_filter]
    exact ParsedArguments.select_of_no_order absent _
  arranged order kind asked sortable holds := by
    rw [← arguments.matching_eq_filter,
      ParsedArguments.select_of_order asked]
    exact order.arranges_sort sortable
      (holds.of_subset fun _ => ParsedArguments.mem_of_mem_matching)

/-- A page that is asked for at once lists all rows that satisfy the filter,
once for every time that the table holds them, in a stable order. -/
theorem listsRows_page (known : store.table? table = some stored)
    (noLimit : arguments.pagination.bind (·.limit?) = none)
    (noOffset : arguments.pagination.bind (·.offset?) = none) :
    ∃ page, (Store.page table arguments store).1 = .ok page ∧
      store.ListsRows table arguments page := by
  refine ⟨arguments.select (store.rows table), ?_, listsRows_select⟩
  rw [Store.page, select_of_known known]
  exact congrArg Except.ok
    (ParsedArguments.stretch_eq_self noLimit noOffset)

/-! ## Laps by their times -/

def lapTable : StoredTable :=
  ⟨⟨"lap", [⟨"lane", "int", none⟩, ⟨"seconds", "real", none⟩], []⟩, "lane"⟩

def lapRows : List Json :=
  [.object [("lane", .ofInt 1), ("seconds", .ofInt 12)],
    .object [("lane", .ofInt 2)],
    .object [("lane", .ofInt 3), ("seconds", .ofInt 9)],
    .object [("lane", .ofInt 4), ("seconds", .null)],
    .object [("lane", .ofInt 5), ("seconds", .ofInt 12)]]

def lapStore : Store :=
  (Store.empty.withTable lapTable.metadata "lane").setRows "lap" lapRows

/-- The laps on all lanes but the first, the slowest in front. -/
def lapArguments : ParsedArguments :=
  ⟨"lap", some ⟨"lap", [⟨"lane", .greater, "1"⟩]⟩,
    some ⟨"lap", [("orderby", "seconds desc")]⟩, []⟩

theorem listsRows_page_laps :
    lapStore.table? "lap" = some lapTable ∧
      ∃ page, (Store.page "lap" lapArguments lapStore).1 = .ok page ∧
        lapStore.ListsRows "lap" lapArguments page ∧
        (⟨"seconds", false⟩ : OrderBy).Arranges
          (lapRows.filter fun row =>
            lapArguments.clauses.all (·.isSatisfied row)) page := by
  have known : lapStore.table? "lap" = some lapTable := rfl
  have numbers : HoldsOnly "seconds" .number (lapStore.rows "lap") := by
    have rowsEq : lapStore.rows "lap" = lapRows := rfl
    rw [rowsEq]
    simp [HoldsOnly, lapRows, Json.present?, Json.get?,
      OrderedMap.findEntry, Json.isNull, Json.ofInt, Json.kind?]
  have noLimit : lapArguments.pagination.bind (·.limit?) = none := rfl
  have noOffset : lapArguments.pagination.bind (·.offset?) = none := rfl
  obtain ⟨page, shown, lists⟩ := listsRows_page known noLimit noOffset
  exact ⟨known, page, shown, lists,
    lists.arranged ⟨"seconds", false⟩ .number rfl (.inl rfl) numbers⟩

end Store

end TableGateway
