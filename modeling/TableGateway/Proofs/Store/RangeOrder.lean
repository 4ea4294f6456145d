import TableGateway.Proofs.Filter.Comparisons
import TableGateway.Proofs.Pagination
import TableGateway.Proofs.Store.SortedPages

/-!
# Orders and range filters

A range filter compares a value with the literal of another one, an order
compares the two values. Among numbers and among texts both come to the same,
since a literal reads back as its value. An order does not tell truth values
apart, which a filter does, and so the rows of a page need not follow the filter
there. The main statement is `Store.rangesAgree_iff`.
-/

namespace TableGateway

/-! ## Rows that a range filter puts below others -/

/-- Whether a row satisfies `<` with the literal of what another one has. -/
def IsBelow (field : String) (lower upper : Json) : Prop :=
  ∃ value literal, upper.present? field = some value ∧
    value.literal? = some literal ∧ lower.Meets field .less literal

theorem exists_values_of_isBelow {field : String} {lower upper : Json}
    (below : IsBelow field lower upper) :
    ∃ found value literal, lower.present? field = some found ∧
      upper.present? field = some value ∧ value.literal? = some literal ∧
      found.compareLiteral? literal = some .lt := by
  obtain ⟨value, literal, present, written, meets⟩ := below
  rw [lower.meets_iff_of_results field literal rfl, Json.comparison?,
    Option.bind_eq_some_iff] at meets
  obtain ⟨found, foundPresent, compared⟩ := meets
  exact ⟨found, value, literal, foundPresent, present, written, compared⟩

namespace FieldValue

theorem not_mayPrecede_numbers {left right : Number} {literal : String}
    (written : (Json.number right).literal? = some literal)
    (compared : (Json.number left).compareLiteral? literal = some .lt) :
    mayPrecede (some (.number right)) (some (.number left)) = false := by
  obtain rfl := Option.some.inj written
  have ranks := Reading.compare?_eq_rank left.reading_ne_notANumber
    right.reading_ne_notANumber
  rw [Json.compareLiteral?, Json.readDouble?_text, Option.bind_some, ranks,
    Option.some.injEq, Int.compare_eq_lt] at compared
  simpa [mayPrecede] using compared

theorem not_mayPrecede_texts {left right : String} {literal : String}
    (written : (Json.string right).literal? = some literal)
    (compared : (Json.string left).compareLiteral? literal = some .lt) :
    mayPrecede (some (.string right)) (some (.string left)) = false := by
  obtain rfl := Option.some.inj written
  have below : left < right :=
    compareOfLessAndEq_eq_lt.mp (Option.some.inj compared)
  simpa [mayPrecede] using String.not_le.mpr below

end FieldValue

/-- Among numbers, or among texts, a row that a range filter puts below another
one may not stand behind it. -/
theorem not_mayPrecede_of_isBelow {field : String} {kind : Json.Kind}
    {rows : List Json} (sortable : kind = .number ∨ kind = .string)
    (holds : HoldsOnly field kind rows) {lower upper : Json}
    (lowerMember : lower ∈ rows) (upperMember : upper ∈ rows)
    (below : IsBelow field lower upper) :
    FieldValue.mayPrecede (upper.present? field)
      (lower.present? field) = false := by
  obtain ⟨found, value, literal, foundPresent, present, written, compared⟩ :=
    exists_values_of_isBelow below
  have foundKind := holds lower lowerMember found foundPresent
  have valueKind := holds upper upperMember value present
  rw [foundPresent, present]
  rcases sortable with rfl | rfl
  · obtain ⟨left, rfl⟩ := Json.exists_number_of_kind? foundKind
    obtain ⟨right, rfl⟩ := Json.exists_number_of_kind? valueKind
    exact FieldValue.not_mayPrecede_numbers written compared
  · obtain ⟨left, rfl⟩ := Json.exists_text_of_kind? foundKind
    obtain ⟨right, rfl⟩ := Json.exists_text_of_kind? valueKind
    exact FieldValue.not_mayPrecede_texts written compared

/-- Of truth values a filter puts `false` below `true`, and it compares no
arrays and no objects. -/
theorem truths_of_isBelow {field : String} {kind : Json.Kind}
    {rows : List Json} (noNumber : kind ≠ .number) (noText : kind ≠ .string)
    (holds : HoldsOnly field kind rows) {lower upper : Json}
    (lowerMember : lower ∈ rows) (upperMember : upper ∈ rows)
    (below : IsBelow field lower upper) :
    lower.present? field = some (.bool false) ∧
      upper.present? field = some (.bool true) := by
  obtain ⟨found, value, literal, foundPresent, present, written, compared⟩ :=
    exists_values_of_isBelow below
  have foundKind := holds lower lowerMember found foundPresent
  have valueKind := holds upper upperMember value present
  rcases (Json.isScalar_of_compareLiteral? compared).cases with
    ⟨left, rfl⟩ | ⟨number, rfl⟩ | ⟨text, rfl⟩
  · obtain rfl := Option.some.inj foundKind
    obtain ⟨right, rfl⟩ := Json.exists_truth_of_kind? valueKind
    obtain rfl := Option.some.inj written
    rw [Json.compareLiteral?, Json.readBool?_text_bool, Option.map_some,
      Option.some.injEq] at compared
    have truths : left = false ∧ right = true := by
      revert compared
      cases left <;> cases right <;> decide
    rw [foundPresent, present, truths.1, truths.2]
    exact ⟨rfl, rfl⟩
  · exact absurd (Option.some.inj foundKind).symm noNumber
  · exact absurd (Option.some.inj foundKind).symm noText

theorem isBelow_of_truths {field : String} {lower upper : Json}
    (isFalse : lower.present? field = some (.bool false))
    (isTrue : upper.present? field = some (.bool true)) :
    IsBelow field lower upper := by
  refine ⟨.bool true, _, isTrue, rfl, ?_⟩
  rw [lower.meets_iff_of_results field _ rfl, Json.comparison?, isFalse,
    Option.bind_some, Json.compareLiteral?, Json.readBool?_text_bool]
  rfl

/-! ## Places of rows -/

/-- A row stands before another one, wherever the two stand. -/
def StandsBefore (rows : List Json) (first second : Json) : Prop :=
  ∀ place other : Nat, rows[place]? = some first →
    rows[other]? = some second → place < other

theorem not_standsBefore_of_sublist {rows : List Json} {first second : Json}
    (inOrder : [second, first].Sublist rows) :
    ¬StandsBefore rows first second := by
  intro before
  have apart : rows.Pairwise fun earlier later =>
      ¬(earlier = second ∧ later = first) := by
    rw [List.pairwise_iff_getElem]
    rintro place other placeBound otherBound less ⟨isSecond, isFirst⟩
    have behind := before other place
      (List.getElem?_eq_some_iff.mpr ⟨otherBound, isFirst⟩)
      (List.getElem?_eq_some_iff.mpr ⟨placeBound, isSecond⟩)
    omega
  have pair := List.pairwise_pair.mp (apart.sublist inOrder)
  exact pair ⟨rfl, rfl⟩

theorem standsBefore_of_pairwise {rows : List Json} {first second : Json}
    {precedes : Json → Json → Bool}
    (inOrder : rows.Pairwise fun earlier later =>
      precedes earlier later = true)
    (refl : ∀ row ∈ rows, precedes row row = true)
    (apart : precedes second first = false) :
    StandsBefore rows first second := by
  intro place other placeEq otherEq
  obtain ⟨placeBound, isFirst⟩ := List.getElem?_eq_some_iff.mp placeEq
  obtain ⟨otherBound, isSecond⟩ := List.getElem?_eq_some_iff.mp otherEq
  have related : other ≤ place → precedes second first = true := by
    intro notBefore
    rcases Nat.lt_or_eq_of_le notBefore with less | rfl
    · have ordered := List.pairwise_iff_getElem.mp inOrder other place
        otherBound placeBound less
      rwa [isFirst, isSecond] at ordered
    · rw [← isFirst, isSecond, ← isSecond]
      exact refl _ (List.getElem_mem otherBound)
  by_contra notBefore
  rw [related (Nat.le_of_not_lt notBefore)] at apart
  cases apart

/-- Of two rows of a list one stands before the other. -/
theorem pair_sublist_of_mem {rows : List Json} {left right : Json}
    (different : left ≠ right) (leftMember : left ∈ rows)
    (rightMember : right ∈ rows) :
    [left, right].Sublist rows ∨ [right, left].Sublist rows := by
  induction rows with
  | nil => cases leftMember
  | cons head tail inductionHypothesis =>
      rcases List.mem_cons.mp leftMember with rfl | leftTail
      · have rightTail :=
          (List.mem_cons.mp rightMember).resolve_left (Ne.symm different)
        exact .inl ((List.singleton_sublist.mpr rightTail).cons_cons left)
      · rcases List.mem_cons.mp rightMember with rfl | rightTail
        · exact .inr ((List.singleton_sublist.mpr leftTail).cons_cons right)
        · exact (inductionHypothesis leftTail rightTail).imp
            (·.cons head) (·.cons head)

namespace OrderBy

variable (order : OrderBy) {rows page : List Json} {lower upper : Json}

/-- Whether a list has one row before another one as an order ascends, and
behind it as it descends. -/
def Separates (rows : List Json) (lower upper : Json) : Prop :=
  if order.ascending then StandsBefore rows lower upper
  else StandsBefore rows upper lower

theorem separates_of_mem
    (separates : lower ∈ rows → upper ∈ rows →
      order.Separates rows lower upper) :
    order.Separates rows lower upper := by
  unfold Separates at separates ⊢
  split at separates
  · rw [if_pos ‹_›]
    exact fun place other placeEq otherEq =>
      separates (List.mem_of_getElem? placeEq)
        (List.mem_of_getElem? otherEq) place other placeEq otherEq
  · rw [if_neg ‹_›]
    exact fun place other placeEq otherEq =>
      separates (List.mem_of_getElem? otherEq)
        (List.mem_of_getElem? placeEq) place other placeEq otherEq

theorem separates_of_pairwise
    (inOrder : rows.Pairwise fun earlier later =>
      order.mayPrecede earlier later = true)
    (refl : ∀ row ∈ rows, order.mayPrecede row row = true)
    (apart : FieldValue.mayPrecede (upper.present? order.field)
      (lower.present? order.field) = false) :
    order.Separates rows lower upper := by
  unfold Separates
  split
  · refine standsBefore_of_pairwise inOrder refl ?_
    rwa [mayPrecede, if_pos ‹_›]
  · refine standsBefore_of_pairwise inOrder refl ?_
    rwa [mayPrecede, if_neg ‹_›]

/-- Sorting by truth values leaves them as they are. -/
theorem pair_sublist_sort (holds : HoldsOnly order.field .bool rows)
    {left right : Json} {first second : Bool}
    (leftHolds : left.present? order.field = some (.bool first))
    (rightHolds : right.present? order.field = some (.bool second))
    (inOrder : [left, right].Sublist rows) :
    [left, right].Sublist (order.sort rows) := by
  rw [order.sort_eq_mergeSort ⟨.bool, holds⟩]
  refine List.pair_sublist_mergeSort ?_ order.isLE_compareRowRanks_total ?_
    inOrder
  · exact fun _ _ _ => order.isLE_compareRowRanks_trans
  · rw [compareRowRanks, leftHolds, rightHolds]
    split <;> rfl

end OrderBy

/-! ## Pages and filters -/

namespace Store

/-- Every page that is ordered by a field has the rows that a range filter puts
below another one before it, or behind it as the order descends. -/
def RangesAgree (store : Store) (table field : String) : Prop :=
  ∀ (arguments : ParsedArguments) (order : OrderBy) (page : List Json),
    arguments.pagination.bind (·.orderBy?) = some order →
    order.field = field →
    (Store.page table arguments store).1 = .ok page →
    ∀ lower upper, IsBelow field lower upper →
      order.Separates page lower upper

/-- Whether a truth value occurs in a field. -/
def HoldsTruth (field : String) (truth : Bool) (rows : List Json) : Prop :=
  ∃ row ∈ rows, row.present? field = some (.bool truth)

variable {store : Store} {table field : String} {stored : StoredTable}

/-- A page takes its rows in order from those that satisfy the filter. -/
theorem sublist_of_page {arguments : ParsedArguments} {order : OrderBy}
    {page : List Json} (known : store.table? table = some stored)
    (asked : arguments.pagination.bind (·.orderBy?) = some order)
    (shown : (Store.page table arguments store).1 = .ok page) :
    page.Sublist
      (order.sort (arguments.matching (store.rows table))) := by
  rw [Store.page, select_of_known known,
    ParsedArguments.select_of_order asked] at shown
  obtain rfl := Except.ok.inj shown
  exact arguments.stretch_sublist _

theorem mem_rows_of_page {arguments : ParsedArguments} {order : OrderBy}
    {page : List Json} {row : Json} (known : store.table? table = some stored)
    (asked : arguments.pagination.bind (·.orderBy?) = some order)
    (shown : (Store.page table arguments store).1 = .ok page)
    (member : row ∈ page) : row ∈ store.rows table := by
  have sorted := (sublist_of_page known asked shown).subset member
  exact ParsedArguments.mem_of_mem_matching (List.mem_mergeSort.mp sorted)

theorem rangesAgree_of_sortable (known : store.table? table = some stored)
    {kind : Json.Kind} (sortable : kind = .number ∨ kind = .string)
    (holds : HoldsOnly field kind (store.rows table)) :
    store.RangesAgree table field := by
  intro arguments order page asked fieldEq shown lower upper below
  subst fieldEq
  have inPage := sublist_of_page known asked shown
  have matchingHolds : HoldsOnly order.field kind
      (arguments.matching (store.rows table)) :=
    holds.of_subset fun _ => ParsedArguments.mem_of_mem_matching
  have within : ∀ row ∈ page, row ∈ store.rows table :=
    fun row member => mem_rows_of_page known asked shown member
  refine order.separates_of_mem fun lowerMember upperMember => ?_
  refine order.separates_of_pairwise
    ((order.pairwise_sort sortable matchingHolds).sublist inPage)
    (fun row member =>
      order.mayPrecede_refl sortable holds (within row member)) ?_
  exact not_mayPrecede_of_isBelow sortable holds (within _ lowerMember)
    (within _ upperMember) below

theorem isWord_of_asked {arguments : ParsedArguments} {order : OrderBy}
    (asked : arguments.pagination.bind (·.orderBy?) = some order) :
    Pagination.IsWord order.field := by
  obtain ⟨pagination, _, read⟩ := Option.bind_eq_some_iff.mp asked
  obtain ⟨text, _, readText⟩ := Option.bind_eq_some_iff.mp read
  exact Pagination.isWord_of_readOrder? readText

/-- Orders and filters agree on values of one kind unless some are `true` and
some are `false`. -/
theorem rangesAgree_of_not_truths (known : store.table? table = some stored)
    (oneKind : OneKind field (store.rows table))
    (notBoth : ¬(Pagination.IsWord field ∧
      HoldsTruth field true (store.rows table) ∧
      HoldsTruth field false (store.rows table))) :
    store.RangesAgree table field := by
  obtain ⟨kind, holds⟩ := oneKind
  cases kind with
  | number => exact rangesAgree_of_sortable known (.inl rfl) holds
  | string => exact rangesAgree_of_sortable known (.inr rfl) holds
  | bool | array | object =>
      -- No two rows of a page are told apart by the filter.
      intro arguments order page asked fieldEq shown lower upper below
      subst fieldEq
      have within : ∀ row ∈ page, row ∈ store.rows table :=
        fun row member => mem_rows_of_page known asked shown member
      refine order.separates_of_mem fun lowerMember upperMember => ?_
      obtain ⟨isFalse, isTrue⟩ := truths_of_isBelow (by decide) (by decide)
        holds (within lower lowerMember) (within upper upperMember) below
      exact absurd ⟨isWord_of_asked asked,
        ⟨upper, within upper upperMember, isTrue⟩,
        lower, within lower lowerMember, isFalse⟩ notBoth

/-- The arguments that ask for all rows in an order. -/
def orderArguments (table : String) (order : OrderBy) : ParsedArguments :=
  ⟨table, none, some ⟨table, [("orderby", Pagination.orderText order)]⟩, []⟩

theorem orderBy?_orderArguments (table : String) {order : OrderBy}
    (word : Pagination.IsWord order.field) :
    (orderArguments table order).pagination.bind (·.orderBy?) =
      some order := by
  have entry : (orderArguments table order).pagination.bind (·.orderBy?) =
      Pagination.readOrder? (Pagination.orderText order) := rfl
  rw [entry, Pagination.readOrder?_orderText word]

theorem page_orderArguments (known : store.table? table = some stored)
    {order : OrderBy} (word : Pagination.IsWord order.field) :
    (Store.page table (orderArguments table order) store).1 =
      .ok (order.sort (store.rows table)) := by
  have asked := orderBy?_orderArguments table word
  rw [Store.page, select_of_known known,
    ParsedArguments.select_of_order asked]
  rfl

/-- Where both truth values occur, one of the two directions has them the other
way round than the filter. -/
theorem not_truths_of_rangesAgree (known : store.table? table = some stored)
    (oneKind : OneKind field (store.rows table))
    (agree : store.RangesAgree table field) :
    ¬(Pagination.IsWord field ∧
      HoldsTruth field true (store.rows table) ∧
      HoldsTruth field false (store.rows table)) := by
  rintro ⟨word, ⟨upper, upperMember, isTrue⟩, lower, lowerMember, isFalse⟩
  obtain ⟨kind, holds⟩ := oneKind
  obtain rfl := Option.some.inj (holds upper upperMember _ isTrue)
  have below := isBelow_of_truths isFalse isTrue
  have separates (order : OrderBy) (fieldEq : order.field = field) :
      order.Separates (order.sort (store.rows table)) lower upper := by
    subst fieldEq
    exact agree (orderArguments table order) order _
      (orderBy?_orderArguments table word) rfl
      (page_orderArguments known word) lower upper below
  have different : upper ≠ lower := by
    rintro rfl
    cases isTrue.symm.trans isFalse
  rcases pair_sublist_of_mem different upperMember lowerMember with
    upperFirst | lowerFirst
  · have sorted :=
      OrderBy.pair_sublist_sort ⟨field, true⟩ holds isTrue isFalse upperFirst
    exact not_standsBefore_of_sublist sorted (separates ⟨field, true⟩ rfl)
  · have sorted :=
      OrderBy.pair_sublist_sort ⟨field, false⟩ holds isFalse isTrue lowerFirst
    exact not_standsBefore_of_sublist sorted (separates ⟨field, false⟩ rfl)

/-- For a table and a field whose values are of one kind: the pages that are
ordered by the field agree with its range filters if and only if it does not
hold both truth values, or is no name that an order can be asked for by. So they
agree on numbers and on texts, whatever the rows. -/
theorem rangesAgree_iff (known : store.table? table = some stored)
    (oneKind : OneKind field (store.rows table)) :
    (store.RangesAgree table field ↔
      ¬(Pagination.IsWord field ∧
        HoldsTruth field true (store.rows table) ∧
        HoldsTruth field false (store.rows table))) ∧
    (∀ kind, kind = .number ∨ kind = .string →
      HoldsOnly field kind (store.rows table) →
        store.RangesAgree table field) :=
  ⟨⟨not_truths_of_rangesAgree known oneKind,
      rangesAgree_of_not_truths known oneKind⟩,
    fun _ sortable holds => rangesAgree_of_sortable known sortable holds⟩

/-! ## A task that is done before one that is not -/

def taskTable : StoredTable :=
  ⟨⟨"task", [⟨"title", "text", none⟩, ⟨"done", "bool", none⟩], []⟩, "title"⟩

def taskRows : List Json :=
  [.object [("done", .bool true), ("title", .string "first")],
    .object [("done", .bool false), ("title", .string "second")]]

def taskStore : Store :=
  (Store.empty.withTable taskTable.metadata "title").setRows "task" taskRows

theorem not_rangesAgree_tasks :
    taskStore.table? "task" = some taskTable ∧
      HoldsOnly "done" .bool (taskStore.rows "task") ∧
      ¬taskStore.RangesAgree "task" "done" := by
  have known : taskStore.table? "task" = some taskTable := rfl
  have rowsEq : taskStore.rows "task" = taskRows := rfl
  have truths : HoldsOnly "done" .bool (taskStore.rows "task") := by
    rw [rowsEq]
    simp [HoldsOnly, taskRows, Json.present?, Json.get?,
      OrderedMap.findEntry, Json.isNull, Json.kind?]
  have holdsTrue : HoldsTruth "done" true (taskStore.rows "task") :=
    ⟨_, List.mem_cons_self, rfl⟩
  have holdsFalse : HoldsTruth "done" false (taskStore.rows "task") :=
    ⟨_, List.mem_cons_of_mem _ List.mem_cons_self, rfl⟩
  have word : Pagination.IsWord "done" := by
    refine ⟨by decide, ?_⟩
    simp [isBlank]
  refine ⟨known, truths, fun agree => ?_⟩
  have notBoth := (rangesAgree_iff known ⟨.bool, truths⟩).1.mp agree
  exact notBoth ⟨word, holdsTrue, holdsFalse⟩

end Store

end TableGateway
