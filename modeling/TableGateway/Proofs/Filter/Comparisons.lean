import TableGateway.Proofs.Filter.Literal
import TableGateway.Proofs.Store.Selecting
import TableGateway.Proofs.Store.Sorting

/-!
# Comparisons with a literal

The ordering operators ask how the value of a field compares with a literal, and
differ only in the results that satisfy them. The main statement is
`Store.dividesRows`: `<`, `=` and `>` share out the rows whose value compares
with the literal at all, and the other operators put these shares together.
-/

namespace TableGateway

/-! ## Values that compare with a literal -/

theorem Reading.isSome_compare?_iff {left right : Reading}
    (leftNumber : left ≠ notANumber) :
    (left.compare? right).isSome = true ↔ right ≠ notANumber := by
  constructor
  · rintro compared rfl
    cases left <;> cases compared
  · intro rightNumber
    rw [compare?_eq_rank leftNumber rightNumber]
    rfl

namespace Json

/-- Whether a value compares with a literal: a text with any, a number with what
reads as a number, a truth value with `true` and `false`, and nothing else. -/
def isComparable (literal : String) : Json → Bool
  | number _ =>
      match readDouble? literal.toList with
      | none | some .notANumber => false
      | some _ => true
  | string _ => true
  | bool _ => literal == "true" || literal == "false"
  | null | array _ | object _ => false

theorem isSome_readBool? (literal : String) :
    (readBool? literal).isSome =
      (literal == "true" || literal == "false") := by
  unfold readBool?
  by_cases isTrue : literal = "true"
  · simp [isTrue]
  · by_cases isFalse : literal = "false"
    · simp [isFalse]
    · simp [isTrue, isFalse]

theorem isSome_compareLiteral? (value : Json) (literal : String) :
    (value.compareLiteral? literal).isSome =
      value.isComparable literal := by
  cases value with
  | null | array _ | object _ | string _ => rfl
  | bool truth =>
      rw [compareLiteral?, Option.isSome_map, isSome_readBool?]
      rfl
  | number size =>
      unfold compareLiteral? isComparable
      cases readDouble? literal.toList with
      | none => rfl
      | some reading =>
          have compared : (size.reading.compare? reading).isSome = true ↔
              reading ≠ .notANumber :=
            Reading.isSome_compare?_iff size.reading_ne_notANumber
          cases reading <;> simp_all

end Json

/-! ## Clauses as comparisons -/

/-- The results of a comparison that satisfy an ordering operator. -/
def FilterOperator.results : FilterOperator → List Ordering
  | less => [.lt]
  | atMost => [.lt, .eq]
  | equal => [.eq]
  | atLeast => [.gt, .eq]
  | greater => [.gt]
  | nullSafeEqual | like | oneOf => []

theorem FilterClause.comparesAs_iff (results : List Ordering)
    (value : Option Json) (literal : String) :
    comparesAs results value literal = true ↔
      ∃ result ∈ results,
        value.bind (·.compareLiteral? literal) = some result := by
  unfold comparesAs
  cases value.bind (·.compareLiteral? literal) with
  | none => simp
  | some result => simp

/-- A membership clause compares with the values between its commas, without
the white space around them. -/
theorem FilterClause.values_oneOf_intercalate (field : String)
    {values : List String} (notEmpty : values ≠ [])
    (clean : ∀ value ∈ values, ',' ∉ value.toList) :
    (oneOf field (",".intercalate values)).values = values.map trimmed := by
  have cut : segments ',' (",".intercalate values).toList =
      values.map String.toList := by
    rw [String.toList_intercalate]
    exact segments_intercalate (by simpa using notEmpty) (by simpa using clean)
  have valuesEq : (oneOf field (",".intercalate values)).values =
      (segments ',' (",".intercalate values).toList).map fun part =>
        String.ofList (trim part) := rfl
  rw [valuesEq, cut, List.map_map]
  rfl

namespace Json

/-- Whether a record satisfies the clause of a field, an operator and a
value. -/
def Meets (record : Json) (field : String) (operator : FilterOperator)
    (value : String) : Prop :=
  (FilterClause.mk field operator value).isSatisfied record = true

/-- How what a record has in a field compares with a literal. -/
def comparison? (record : Json) (field literal : String) : Option Ordering :=
  (record.present? field).bind (·.compareLiteral? literal)

/-- Whether what a record has in a field compares with a literal. -/
def isComparableIn (record : Json) (field literal : String) : Bool :=
  (record.present? field).any (·.isComparable literal)

variable (record : Json) (field literal : String)

/-- An ordering operator looks at the result of the comparison only. -/
theorem meets_iff (operator : FilterOperator)
    (ordering : operator.results ≠ []) :
    record.Meets field operator literal ↔
      ∃ result ∈ operator.results,
        record.comparison? field literal = some result := by
  cases operator with
  | nullSafeEqual | like | oneOf => exact absurd rfl ordering
  | less | atMost | equal | atLeast | greater =>
      exact FilterClause.comparesAs_iff _ _ literal

/-- The operators `<`, `=` and `>` ask for one result. -/
theorem meets_iff_of_results {operator : FilterOperator} {result : Ordering}
    (only : operator.results = [result]) :
    record.Meets field operator literal ↔
      record.comparison? field literal = some result := by
  have ordering : operator.results ≠ [] := by simp [only]
  rw [record.meets_iff field literal operator ordering, only]
  simp

theorem isSome_comparison? :
    (record.comparison? field literal).isSome =
      record.isComparableIn field literal := by
  unfold comparison? isComparableIn
  cases record.present? field with
  | none => rfl
  | some value => exact isSome_compareLiteral? value literal

theorem meets_oneOf_iff {values : List String} (notEmpty : values ≠ [])
    (clean : ∀ value ∈ values, ',' ∉ value.toList) :
    record.Meets field .oneOf (",".intercalate values) ↔
      ∃ value ∈ values, record.Meets field .equal (trimmed value) := by
  have clauseValues :=
    FilterClause.values_oneOf_intercalate field notEmpty clean
  have satisfiedEq :
      (FilterClause.oneOf field (",".intercalate values)).isSatisfied record =
        (FilterClause.oneOf field (",".intercalate values)).values.any
          (FilterClause.comparesAs [.eq] (record.present? field)) := rfl
  unfold Meets
  rw [← FilterClause.oneOf, satisfiedEq, clauseValues, List.any_map,
    List.any_eq_true]
  rfl

theorem meets_nullSafeEqual_iff :
    record.Meets field .nullSafeEqual literal ↔
      record.Meets field .equal literal ∨
        (record.present? field = none ∧
          sameAsciiCaseless literal "null" = true) := by
  unfold Meets FilterClause.isSatisfied
  cases record.present? field with
  | none => simp [FilterClause.comparesAs]
  | some found => simp

/-- How the clauses on one field, and with one literal, share out a record. -/
structure SharedOut (record : Json) (field literal : String) : Prop where
  less_or_equal :
    ¬(record.Meets field .less literal ∧ record.Meets field .equal literal)
  equal_or_greater :
    ¬(record.Meets field .equal literal ∧
      record.Meets field .greater literal)
  less_or_greater :
    ¬(record.Meets field .less literal ∧ record.Meets field .greater literal)
  atMost_iff : record.Meets field .atMost literal ↔
    record.Meets field .less literal ∨ record.Meets field .equal literal
  atLeast_iff : record.Meets field .atLeast literal ↔
    record.Meets field .greater literal ∨ record.Meets field .equal literal
  nullSafeEqual_iff : record.Meets field .nullSafeEqual literal ↔
    record.Meets field .equal literal ∨
      (record.present? field = none ∧
        sameAsciiCaseless literal "null" = true)
  oneOf_iff : ∀ values : List String, values ≠ [] →
    (∀ value ∈ values, ',' ∉ value.toList) →
    (record.Meets field .oneOf (",".intercalate values) ↔
      ∃ value ∈ values, record.Meets field .equal (trimmed value))
  none_iff :
    (¬record.Meets field .less literal ∧
      ¬record.Meets field .equal literal ∧
      ¬record.Meets field .greater literal) ↔
    record.isComparableIn field literal = false

theorem sharedOut : record.SharedOut field literal := by
  have less : record.Meets field .less literal ↔
      record.comparison? field literal = some .lt :=
    record.meets_iff_of_results field literal rfl
  have equal : record.Meets field .equal literal ↔
      record.comparison? field literal = some .eq :=
    record.meets_iff_of_results field literal rfl
  have greater : record.Meets field .greater literal ↔
      record.comparison? field literal = some .gt :=
    record.meets_iff_of_results field literal rfl
  refine ⟨?_, ?_, ?_, ?_, ?_, record.meets_nullSafeEqual_iff field literal,
    fun _ notEmpty clean => record.meets_oneOf_iff field notEmpty clean, ?_⟩
  · rw [less, equal]
    rintro ⟨below, same⟩
    cases below.symm.trans same
  · rw [equal, greater]
    rintro ⟨same, above⟩
    cases same.symm.trans above
  · rw [less, greater]
    rintro ⟨below, above⟩
    cases below.symm.trans above
  · rw [less, equal, record.meets_iff field literal .atMost (by decide)]
    simp [FilterOperator.results]
  · rw [greater, equal, record.meets_iff field literal .atLeast (by decide)]
    simp [FilterOperator.results]
  · rw [less, equal, greater, ← isSome_comparison?]
    cases record.comparison? field literal with
    | none => simp
    | some result => cases result <;> simp

end Json

/-! ## Rows that compare with a literal -/

/-- Arguments that demand one clause and nothing else. -/
def ParsedArguments.demanding (table : String) (clause : FilterClause) :
    ParsedArguments :=
  .ofFilter table ((FilterCondition.empty table).add clause)

namespace Store

/-- How the clauses on one field, and with one literal, divide the rows of a
table. -/
structure DividesRows (store : Store) (table field literal : String) :
    Prop where
  selected : ∀ clause : FilterClause,
    store.select table (.demanding table clause) =
      .ok ((store.rows table).filter clause.isSatisfied)
  sharedOut : ∀ row ∈ store.rows table, row.SharedOut field literal
  totals : ∃ below same above : Nat,
    (pageTotal table (.demanding table ⟨field, .less, literal⟩) store).1 =
      .ok below ∧
    (pageTotal table (.demanding table ⟨field, .equal, literal⟩) store).1 =
      .ok same ∧
    (pageTotal table (.demanding table ⟨field, .greater, literal⟩) store).1 =
      .ok above ∧
    below + same + above =
      (store.rows table).countP (·.isComparableIn field literal)

variable {store : Store} {table : String} {stored : StoredTable}

theorem select_demanding (known : store.table? table = some stored)
    (clause : FilterClause) :
    store.select table (.demanding table clause) =
      .ok ((store.rows table).filter clause.isSatisfied) := by
  have selected : (ParsedArguments.demanding table clause).select
      (store.rows table) = (store.rows table).filter
        ((FilterCondition.empty table).add clause).isSatisfied := rfl
  rw [select_of_known known, selected,
    FilterCondition.isSatisfied_add_empty]

theorem pageTotal_demanding (known : store.table? table = some stored)
    (clause : FilterClause) :
    (pageTotal table (.demanding table clause) store).1 =
      .ok ((store.rows table).countP clause.isSatisfied) := by
  rw [pageTotal, select_demanding known, List.countP_eq_length_filter]
  rfl

/-- Every row that compares with the literal is counted for one result. -/
theorem countP_comparisons (rows : List Json) (field literal : String) :
    rows.countP (FilterClause.mk field .less literal).isSatisfied +
        rows.countP (FilterClause.mk field .equal literal).isSatisfied +
        rows.countP (FilterClause.mk field .greater literal).isSatisfied =
      rows.countP (·.isComparableIn field literal) := by
  induction rows with
  | nil => rfl
  | cons row rest inductionHypothesis =>
      have shared := row.sharedOut field literal
      have comparable := shared.none_iff
      have one := shared.less_or_equal
      have two := shared.equal_or_greater
      have three := shared.less_or_greater
      unfold Json.Meets at comparable one two three
      rw [List.countP_cons, List.countP_cons, List.countP_cons,
        List.countP_cons, ← inductionHypothesis]
      grind

/-- In every table `<`, `=` and `>` select rows of their own, which are together
those that compare with the literal. The operators `<=`, `>=`, `#` and `<=>`
select what these do, and `<=> null` also the rows without a value. -/
theorem dividesRows (known : store.table? table = some stored)
    (field literal : String) : store.DividesRows table field literal where
  selected := select_demanding known
  sharedOut row _ := row.sharedOut field literal
  totals :=
    ⟨_, _, _, pageTotal_demanding known _, pageTotal_demanding known _,
      pageTotal_demanding known _,
      countP_comparisons (store.rows table) field literal⟩

/-! ## Sizes of all kinds -/

def parcelSizes : List Json :=
  [.object [("size", .ofInt 2)], .object [("size", .string "2")],
    .object [("size", .bool true)], .object [("size", .array [.ofInt 2])],
    .object [("size", .null)], .object [], .ofInt 2]

def sizeTable : StoredTable :=
  ⟨⟨"parcel", [⟨"size", "text", none⟩], []⟩, "size"⟩

def sizeStore : Store :=
  (Store.empty.withTable sizeTable.metadata "size").setRows "parcel"
    parcelSizes

theorem dividesRows_sizes :
    sizeStore.table? "parcel" = some sizeTable ∧
      sizeStore.DividesRows "parcel" "size" "2" := by
  have known : sizeStore.table? "parcel" = some sizeTable := rfl
  exact ⟨known, dividesRows known "size" "2"⟩

end Store

end TableGateway
