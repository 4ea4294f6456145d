import TableGateway.Proofs.Numeric.Integers
import TableGateway.Store.Selection

/-!
# Sorted rows and filters

The order of two rows is a comparison in one field. Where the values of the
field are of one kind it is transitive, and any two rows compare one way or the
other; equal rows are common. Sorting keeps their places, and so it does not
matter whether a filter is applied before it or after it. The main statements
are `mergeSort_filter` and `OrderBy.sort_filter`.
-/

namespace TableGateway

universe u

/-! ## Stable sorting and filters -/

section Sorting

variable {Item : Type u}

/-- A list falls apart at most once into items that pass a test and items that
fail it. -/
theorem append_eq_append_of_test {test : Item → Bool}
    {left right otherLeft otherRight : List Item}
    (same : left ++ right = otherLeft ++ otherRight)
    (leftPass : ∀ item ∈ left, test item = true)
    (rightFail : ∀ item ∈ right, test item = false)
    (otherLeftPass : ∀ item ∈ otherLeft, test item = true)
    (otherRightFail : ∀ item ∈ otherRight, test item = false) :
    left = otherLeft ∧ right = otherRight := by
  have passing := congrArg (List.filter test) same
  have rightGone : right.filter test = [] :=
    List.filter_eq_nil_iff.mpr (by simpa using rightFail)
  have otherRightGone : otherRight.filter test = [] :=
    List.filter_eq_nil_iff.mpr (by simpa using otherRightFail)
  rw [List.filter_append, List.filter_append, rightGone, otherRightGone,
    List.append_nil, List.append_nil, List.filter_eq_self.mpr leftPass,
    List.filter_eq_self.mpr otherLeftPass] at passing
  subst passing
  exact ⟨rfl, List.append_cancel_left same⟩

/-- Behind an item of a sorted list there are only items that it may stand
before. -/
theorem le_of_mergeSort_eq {le : Item → Item → Bool}
    (trans : ∀ left middle right, le left middle = true →
      le middle right = true → le left right = true)
    (total : ∀ left right, (le left right || le right left) = true)
    {items before behind : List Item} {head : Item}
    (sorted : items.mergeSort le = before ++ head :: behind) :
    ∀ item ∈ behind, le head item = true := by
  have ordered := List.pairwise_mergeSort trans total items
  rw [sorted] at ordered
  have fromHead := (List.pairwise_append.mp ordered).2.1
  exact (List.pairwise_cons.mp fromHead).1

/-- Filtering commutes with a stable sort. -/
theorem mergeSort_filter {le : Item → Item → Bool}
    (trans : ∀ left middle right, le left middle = true →
      le middle right = true → le left right = true)
    (total : ∀ left right, (le left right || le right left) = true)
    (keep : Item → Bool) (items : List Item) :
    (items.filter keep).mergeSort le = (items.mergeSort le).filter keep := by
  induction items with
  | nil => simp
  | cons head tail inductionHypothesis =>
      obtain ⟨before, behind, sortedEq, tailEq, above⟩ :=
        List.mergeSort_cons trans total head tail
      rw [tailEq, List.filter_append] at inductionHypothesis
      cases kept : keep head with
      | false => simp [kept, inductionHypothesis, sortedEq]
      | true =>
          -- The head stands behind everything strictly below it, whether
          -- or not the rest of the list has been filtered.
          obtain ⟨first, last, keptEq, keptTailEq, keptAbove⟩ :=
            List.mergeSort_cons trans total head (tail.filter keep)
          have lastLe := le_of_mergeSort_eq trans total keptEq
          have behindLe := le_of_mergeSort_eq trans total sortedEq
          rw [keptTailEq] at inductionHypothesis
          have apart := append_eq_append_of_test inductionHypothesis
            keptAbove (by simpa using lastLe)
            (fun item member => above item (List.mem_filter.mp member).1)
            (fun item member => by
              simpa using behindLe item (List.mem_filter.mp member).1)
          simp [kept, keptEq, sortedEq, apart]

/-- Sorting compares the items of the list, and no others. -/
theorem mergeSort_congr {le other : Item → Item → Bool} {items : List Item}
    (same : ∀ left ∈ items, ∀ right ∈ items,
      le left right = other left right) :
    items.mergeSort le = items.mergeSort other := by
  have mapped := List.map_mergeSort (f := id) same
  rwa [List.map_id, List.map_id] at mapped

end Sorting

/-! ## Order of numbers -/

namespace Reading

/-- The place of a reading among all; the infinities come first and last. -/
def rank : Reading → Int
  | finite number => number.units
  | infinite true => -overflowMagnitude
  | infinite false => overflowMagnitude
  | notANumber => 0

theorem natAbs_units_lt (number : Binary64) :
    number.units.natAbs < overflowMagnitude := by
  have isFinite := number.isFinite
  unfold Binary64.units
  split <;> omega

/-- Readings other than not-a-number compare as their places do. -/
theorem compare?_eq_rank {left right : Reading}
    (leftNumber : left ≠ notANumber) (rightNumber : right ≠ notANumber) :
    left.compare? right = some (compare left.rank right.rank) := by
  have positive := overflowMagnitude_pos
  cases left with
  | notANumber => exact absurd rfl leftNumber
  | finite number =>
      have bound := natAbs_units_lt number
      cases right with
      | notANumber => exact absurd rfl rightNumber
      | finite other => rfl
      | infinite negative =>
          cases negative with
          | false =>
              have below : compare number.units
                  (overflowMagnitude : Int) = .lt :=
                Int.compare_eq_lt.mpr (by omega)
              exact congrArg some below.symm
          | true =>
              have above : compare number.units
                  (-overflowMagnitude : Int) = .gt :=
                Int.compare_eq_gt.mpr (by omega)
              exact congrArg some above.symm
  | infinite negative =>
      cases right with
      | notANumber => exact absurd rfl rightNumber
      | finite other =>
          have bound := natAbs_units_lt other
          cases negative with
          | false =>
              have above : compare (overflowMagnitude : Int)
                  other.units = .gt :=
                Int.compare_eq_gt.mpr (by omega)
              exact congrArg some above.symm
          | true =>
              have below : compare (-overflowMagnitude : Int)
                  other.units = .lt :=
                Int.compare_eq_lt.mpr (by omega)
              exact congrArg some below.symm
      | infinite otherNegative =>
          have below : compare (-overflowMagnitude : Int)
              (overflowMagnitude : Int) = .lt :=
            Int.compare_eq_lt.mpr (by omega)
          have above : compare (overflowMagnitude : Int)
              (-overflowMagnitude : Int) = .gt :=
            Int.compare_eq_gt.mpr (by omega)
          cases negative with
          | false =>
              cases otherNegative with
              | false => exact congrArg some Std.ReflCmp.compare_self.symm
              | true => exact congrArg some above.symm
          | true =>
              cases otherNegative with
              | false => exact congrArg some below.symm
              | true => exact congrArg some Std.ReflCmp.compare_self.symm

end Reading

theorem Number.reading_ne_notANumber (number : Number) :
    number.reading ≠ .notANumber := by
  cases number with
  | integer value =>
      rcases Reading.ofInt_cases value with ⟨_, equality, _⟩ | ⟨_, equality⟩
      · simp [reading, equality]
      · simp [reading, equality]
  | double value => simp [reading]

/-! ## Order of values -/

namespace Json

/-- The kinds of values that a field can hold. -/
inductive Kind where
  | bool
  | number
  | string
  | array
  | object
  deriving DecidableEq

/-- The kind of a value; null has none. -/
def kind? : Json → Option Kind
  | null => none
  | bool _ => some .bool
  | number _ => some .number
  | string _ => some .string
  | array _ => some .array
  | object _ => some .object

end Json

/-- The values of a field, where rows have it, are of one kind. -/
def OneKind (field : String) (rows : List Json) : Prop :=
  ∃ kind : Json.Kind, ∀ row ∈ rows, ∀ value,
    row.present? field = some value → value.kind? = some kind

theorem OneKind.of_subset {field : String} {rows others : List Json}
    (oneKind : OneKind field rows) (within : others ⊆ rows) :
    OneKind field others := by
  obtain ⟨kind, ofKind⟩ := oneKind
  exact ⟨kind, fun row member => ofKind row (within member)⟩

namespace FieldValue

def numberRank : Option Json → Int
  | some (.number number) => number.reading.rank
  | _ => 0

def textRank : Option Json → String
  | some (.string text) => text
  | _ => ""

/-- Absent values behind all others, numbers by place, strings by code
point. -/
def compareRanks : Option Json → Option Json → Ordering :=
  compareLex (compareOn Option.isNone)
    (compareLex (compareOn numberRank) (compareOn textRank))

instance : Std.TransCmp compareRanks :=
  inferInstanceAs (Std.TransCmp (compareLex (compareOn Option.isNone)
    (compareLex (compareOn numberRank) (compareOn textRank))))

theorem compareFieldValues_numbers (left right : Number) :
    compareFieldValues (some (.number left)) (some (.number right)) =
      compare left.reading.rank right.reading.rank := by
  have compared := Reading.compare?_eq_rank
    left.reading_ne_notANumber right.reading_ne_notANumber
  exact congrArg (·.getD .eq) compared

/-- Values of one kind are ordered by rank, and so in a transitive way. -/
theorem compareFieldValues_eq_compareRanks {kind : Json.Kind}
    {left right : Option Json}
    (leftKind : ∀ value, left = some value → value.kind? = some kind)
    (rightKind : ∀ value, right = some value → value.kind? = some kind) :
    compareFieldValues left right = compareRanks left right := by
  cases left with
  | none =>
      cases right with
      | none => rfl
      | some value =>
          cases value with
          | null => nomatch rightKind .null rfl
          | bool _ | number _ | string _ | array _ | object _ => rfl
  | some found =>
      cases right with
      | none =>
          cases found with
          | null => nomatch leftKind .null rfl
          | bool _ | number _ | string _ | array _ | object _ => rfl
      | some value =>
          have sameKind : found.kind? = value.kind? :=
            (leftKind found rfl).trans (rightKind value rfl).symm
          cases found with
          | null => nomatch leftKind .null rfl
          | number leftNumber =>
              cases value with
              | number rightNumber =>
                  rw [compareFieldValues_numbers]
                  simp [compareRanks, compareLex, compareOn, numberRank,
                    textRank]
              | null | bool _ | string _ | array _ | object _ =>
                  nomatch sameKind
          | string leftText =>
              cases value with
              | string rightText =>
                  have compared :
                      compareFieldValues (some (.string leftText))
                          (some (.string rightText)) =
                        compare leftText rightText := rfl
                  rw [compared]
                  simp [compareRanks, compareLex, compareOn, numberRank,
                    textRank]
              | null | bool _ | number _ | array _ | object _ =>
                  nomatch sameKind
          | bool _ | array _ | object _ =>
              cases value with
              | null | number _ | string _ => nomatch sameKind
              | bool _ | array _ | object _ => rfl

end FieldValue

/-! ## Order of rows -/

namespace OrderBy

variable (order : OrderBy) {rows : List Json}

/-- The ranks of two rows, the other way round in a descending order. -/
def compareRowRanks (left right : Json) : Ordering :=
  if order.ascending then
    FieldValue.compareRanks (left.present? order.field)
      (right.present? order.field)
  else
    FieldValue.compareRanks (right.present? order.field)
      (left.present? order.field)

theorem compareRows_eq_compareRowRanks
    (oneKind : OneKind order.field rows) {left right : Json}
    (leftMember : left ∈ rows) (rightMember : right ∈ rows) :
    order.compareRows left right = order.compareRowRanks left right := by
  obtain ⟨kind, ofKind⟩ := oneKind
  have present : compareFieldValues (left.get? order.field)
      (right.get? order.field) =
        compareFieldValues (left.present? order.field)
          (right.present? order.field) := by
    simp [compareFieldValues, Json.present?, Option.filter_filter]
  have ranked := FieldValue.compareFieldValues_eq_compareRanks
    (ofKind left leftMember) (ofKind right rightMember)
  rw [compareRows, compareRowRanks, present, ranked]
  exact if_congr Iff.rfl rfl Std.OrientedCmp.eq_swap.symm

theorem compareRowRanks_swap (left right : Json) :
    order.compareRowRanks left right =
      (order.compareRowRanks right left).swap := by
  unfold compareRowRanks
  split
  · exact Std.OrientedCmp.eq_swap
  · exact Std.OrientedCmp.eq_swap

theorem isLE_compareRowRanks_trans {left middle right : Json}
    (first : (order.compareRowRanks left middle).isLE = true)
    (second : (order.compareRowRanks middle right).isLE = true) :
    (order.compareRowRanks left right).isLE = true := by
  unfold compareRowRanks at first second ⊢
  by_cases ascending : order.ascending = true
  · rw [if_pos ascending] at first second ⊢
    exact Std.TransCmp.isLE_trans first second
  · rw [if_neg ascending] at first second ⊢
    exact Std.TransCmp.isLE_trans second first

theorem isLE_compareRowRanks_total (left right : Json) :
    ((order.compareRowRanks left right).isLE ||
      (order.compareRowRanks right left).isLE) = true := by
  rw [order.compareRowRanks_swap]
  cases order.compareRowRanks right left <;> rfl

theorem bne_gt_eq_isLE (ordering : Ordering) :
    (ordering != .gt) = ordering.isLE := by
  cases ordering <;> rfl

/-- Rows that can be compared are sorted by their ranks. -/
theorem sort_eq_mergeSort (oneKind : OneKind order.field rows) :
    order.sort rows =
      rows.mergeSort fun left right =>
        (order.compareRowRanks left right).isLE := by
  apply mergeSort_congr
  intro left leftMember right rightMember
  rw [bne_gt_eq_isLE, order.compareRows_eq_compareRowRanks oneKind
    leftMember rightMember]

theorem pairwise_sort_ranks (oneKind : OneKind order.field rows) :
    (order.sort rows).Pairwise fun left right =>
      (order.compareRowRanks left right).isLE = true := by
  rw [order.sort_eq_mergeSort oneKind]
  apply List.pairwise_mergeSort
  · exact fun _ _ _ => order.isLE_compareRowRanks_trans
  · exact order.isLE_compareRowRanks_total

/-- Sorting may come before a filter or behind it. -/
theorem sort_filter (oneKind : OneKind order.field rows)
    (keep : Json → Bool) :
    order.sort (rows.filter keep) = (order.sort rows).filter keep := by
  rw [order.sort_eq_mergeSort oneKind,
    order.sort_eq_mergeSort (oneKind.of_subset List.filter_sublist.subset)]
  apply mergeSort_filter
  · exact fun _ _ _ => order.isLE_compareRowRanks_trans
  · exact order.isLE_compareRowRanks_total

end OrderBy

end TableGateway
