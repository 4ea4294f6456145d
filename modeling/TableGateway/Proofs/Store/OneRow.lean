import TableGateway.Proofs.Json.Overlay
import TableGateway.Proofs.Store.Keys

/-!
# The one row that a write changes

A write with a key goes over the first row that holds the key
(`StoredTable.upsert_of_held`) or behind all rows (`StoredTable.upsert_of_absent`).
`StoredTable.ChangesOneRow` says what a write may make of the rows of its table,
without regard to how it is done, and `StoredTable.changesOneRow_upsert` that
this is what it makes of them.
-/

namespace TableGateway

/-! ## Columns of an input -/

theorem TableMetadata.isSome_column?_iff (metadata : TableMetadata)
    (name : String) :
    (metadata.column? name).isSome = true ↔ name ∈ metadata.columnNames := by
  simp [column?, columnNames]

theorem TableMetadata.isNone_column?_iff (metadata : TableMetadata)
    (name : String) :
    (metadata.column? name).isNone = true ↔ name ∉ metadata.columnNames := by
  rw [← isSome_column?_iff]
  simp

namespace StoredTable

variable {table : StoredTable} {input : Members} {rows : List Json}
  {key row : Json}

theorem unknownColumn?_eq_none_iff :
    table.unknownColumn? input = none ↔
      ∀ name ∈ input.map Prod.fst, name ∈ table.metadata.columnNames := by
  unfold unknownColumn?
  rw [List.find?_eq_none]
  simp only [TableMetadata.isNone_column?_iff, not_not]

/-- The first key of an input, in the order of keys, that is no column. -/
structure IsFirstUnknown (table : StoredTable) (input : Members)
    (name : String) : Prop where
  given : name ∈ input.map Prod.fst
  unknown : name ∉ table.metadata.columnNames
  first : ∀ other ∈ input.map Prod.fst, other < name →
    other ∈ table.metadata.columnNames

theorem unknownColumn?_eq_some_iff (input : OrderedMembers)
    {name : String} :
    table.unknownColumn? input = some name ↔
      table.IsFirstUnknown input name := by
  unfold unknownColumn?
  rw [List.find?_eq_some_iff_append, TableMetadata.isNone_column?_iff]
  constructor
  · rintro ⟨unknown, before, after, namesEq, known⟩
    refine ⟨by simp [namesEq], unknown, ?_⟩
    intro other member smaller
    have sorted := input.ascending
    unfold Members.Ascending at sorted
    rw [namesEq] at member sorted
    have behind := (List.pairwise_cons.mp (List.pairwise_append.mp sorted).2.1).1
    rcases List.mem_append.mp member with inBefore | fromHere
    · have isColumn := known other inBefore
      by_contra notColumn
      rw [← TableMetadata.isNone_column?_iff] at notColumn
      simp [notColumn] at isColumn
    · rcases List.mem_cons.mp fromHere with rfl | inAfter
      · exact absurd smaller (String.lt_irrefl _)
      · exact absurd smaller (String.lt_asymm (behind other inAfter))
  · rintro ⟨given, unknown, first⟩
    obtain ⟨before, after, namesEq⟩ := List.append_of_mem given
    refine ⟨unknown, before, after, namesEq, ?_⟩
    intro other inBefore
    have sorted := input.ascending
    unfold Members.Ascending at sorted
    rw [namesEq] at sorted
    have smaller := (List.pairwise_append.mp sorted).2.2 other inBefore name
      List.mem_cons_self
    have isColumn := first other (by simp [namesEq, inBefore]) smaller
    rw [← TableMetadata.isSome_column?_iff] at isColumn
    simp [isColumn]

/-! ## New rows -/

theorem get?_newMembers_of_not_mem {name : String}
    (notColumn : name ∉ table.metadata.columnNames) :
    (table.newMembers input).get? name = none := by
  let writes := table.metadata.columns.map fun column =>
    (column.name, (input.get? column.name).getD .null)
  have newEq : table.newMembers input = Members.insertAll [] writes := rfl
  have unwritten : lastWrite name writes = none := by
    rw [lastWrite_eq_none_iff]
    intro value member
    obtain ⟨column, columnMember, writeEq⟩ := List.mem_map.mp member
    have named := (Prod.mk.inj writeEq).1
    exact notColumn (List.mem_map.mpr ⟨column, columnMember, named⟩)
  rw [newEq, Members.get?_insertAll, unwritten]
  rfl

/-- A new row has every column, with the value of the input or null. -/
theorem get?_newMembers_eq (table : StoredTable) (input : Members)
    (name : String) :
    (table.newMembers input).get? name =
      if name ∈ table.metadata.columnNames then
        some ((input.get? name).getD .null)
      else none := by
  by_cases isColumn : name ∈ table.metadata.columnNames
  · rw [if_pos isColumn]
    exact get?_newMembers ((table.metadata.isSome_column?_iff name).mpr isColumn)
  · rw [if_neg isColumn]
    exact get?_newMembers_of_not_mem isColumn

/-! ## The first row under a key -/

theorem holdsValue_of_get? {column : String} {found : Json}
    (held : row.get? column = some found) (value : Json) :
    holdsValue column value row = found.same value := by
  simp [holdsValue, held]

/-- What is the same is held by the same rows. -/
theorem holdsValue_congr {other : Json} (agree : key.same other = true)
    (column : String) (row : Json) :
    holdsValue column key row = holdsValue column other row := by
  cases found : row.get? column with
  | none => simp [holdsValue, found]
  | some held =>
      rw [holdsValue_of_get? found, holdsValue_of_get? found, Bool.eq_iff_iff]
      exact ⟨fun same => Json.same_trans same agree,
        fun same => Json.same_trans same (Json.same_symm agree)⟩

/-- A row that is written over holds the key of the input afterwards. -/
theorem holdsValue_overwriteRow {input : OrderedMembers}
    (supplied : input.members.present? table.primaryKey = some key)
    (holds : holdsValue table.primaryKey key row = true) (value : Json) :
    holdsValue table.primaryKey value (overwriteRow input row) =
      key.same value := by
  obtain ⟨members, rfl⟩ := exists_members_of_holdsValue holds
  apply holdsValue_of_get?
  refine (input.ascending.get?_insertAll members _).trans ?_
  rw [Members.get?_of_present? supplied]
  rfl

theorem holdsValue_newMembers (columnsKnown : table.unknownColumn? input = none)
    (supplied : input.present? table.primaryKey = some key) (value : Json) :
    holdsValue table.primaryKey value (.object (table.newMembers input)) =
      key.same value := by
  have given := Members.get?_of_present? supplied
  apply holdsValue_of_get?
  refine (get?_newMembers (isSome_column?_of_get? columnsKnown given)).trans ?_
  rw [given]
  rfl

theorem holder_cases (test : Json → Bool) (rows : List Json) :
    (∀ row ∈ rows, test row = false) ∨
      ∃ before row after, rows = before ++ row :: after ∧
        (∀ earlier ∈ before, test earlier = false) ∧ test row = true := by
  cases found : rows.find? test with
  | none =>
      refine .inl fun row member => ?_
      simpa using List.find?_eq_none.mp found row member
  | some row =>
      obtain ⟨holds, before, after, rowsEq, passedOver⟩ :=
        List.find?_eq_some_iff_append.mp found
      exact .inr ⟨before, row, after, rowsEq, by simpa using passedOver, holds⟩

section Supplied

variable (supplied : input.present? table.primaryKey = some key)

include supplied

theorem upsert_cons_of_holds
    (holds : holdsValue table.primaryKey key row = true) :
    (table.upsert input (row :: rows)).1 = overwriteRow input row :: rows := by
  simp [upsert, supplied, overwriteFirst?, holds]

theorem upsert_cons_of_not_holds
    (passedOver : holdsValue table.primaryKey key row = false) :
    (table.upsert input (row :: rows)).1 =
      row :: (table.upsert input rows).1 := by
  unfold upsert
  simp only [supplied, overwriteFirst?, passedOver]
  cases overwriteFirst? (holdsValue table.primaryKey key) input rows with
  | none => rfl
  | some changed => rfl

theorem upsert_nil :
    (table.upsert input []).1 = [.object (table.newMembers input)] := by
  simp [upsert, supplied, overwriteFirst?]

/-- Where no row holds the key, a row is added behind all others. -/
theorem upsert_of_absent
    (absent : ∀ row ∈ rows, holdsValue table.primaryKey key row = false) :
    (table.upsert input rows).1 =
      rows ++ [.object (table.newMembers input)] := by
  induction rows with
  | nil => exact upsert_nil supplied
  | cons head tail inductionHypothesis =>
      obtain ⟨headAbsent, tailAbsent⟩ := List.forall_mem_cons.mp absent
      rw [upsert_cons_of_not_holds supplied headAbsent,
        inductionHypothesis tailAbsent, List.cons_append]

/-- The first row that holds the key is written over. -/
theorem upsert_of_held {before after : List Json}
    (passedOver : ∀ earlier ∈ before,
      holdsValue table.primaryKey key earlier = false)
    (holds : holdsValue table.primaryKey key row = true) :
    (table.upsert input (before ++ row :: after)).1 =
      before ++ overwriteRow input row :: after := by
  induction before with
  | nil => exact upsert_cons_of_holds supplied holds
  | cons head tail inductionHypothesis =>
      obtain ⟨headPassed, tailPassed⟩ := List.forall_mem_cons.mp passedOver
      rw [List.cons_append, upsert_cons_of_not_holds supplied headPassed,
        inductionHypothesis tailPassed, List.cons_append]

end Supplied

/-! ## What a write may make of rows -/

/-- The rows before and after a write of an input, and the ids that are given to
new rows: the first row that holds the key of the input is written over at
exactly the keys of the input, or else one row is added behind all others. -/
inductive ChangesOneRow (table : StoredTable) (input : Members) :
    List Json → List Json → List Json → Prop
  /-- The row under the key of the input takes the values of the input. -/
  | overwrites {key : Json} {before after : List Json} {old new : Members}
      (supplied : input.present? table.primaryKey = some key)
      (passedOver : ∀ earlier ∈ before,
        holdsValue table.primaryKey key earlier = false)
      (holds : holdsValue table.primaryKey key (.object old) = true)
      (values : ∀ name, new.get? name = (input.get? name).or (old.get? name))
      (inOrder : old.Ascending → new.Ascending) :
      table.ChangesOneRow input (before ++ .object old :: after)
        (before ++ .object new :: after) []
  /-- A row with all columns is added under the key of the input. -/
  | appends {key : Json} {rows : List Json} {new : Members}
      (supplied : input.present? table.primaryKey = some key)
      (absent : ∀ row ∈ rows, holdsValue table.primaryKey key row = false)
      (values : ∀ name, new.get? name =
        if name ∈ table.metadata.columnNames then
          some ((input.get? name).getD .null)
        else none)
      (inOrder : new.Ascending) :
      table.ChangesOneRow input rows (rows ++ [.object new]) []
  /-- A row with all columns and a column of keys is added under an id that is
  new in the table. -/
  | assigns {id : Int} {rows : List Json} {new : Members}
      (notSupplied : input.present? table.primaryKey = none)
      (isWord : (Json.ofInt id).signedWord? = some id)
      (fresh : ∀ row ∈ rows,
        holdsValue table.primaryKey (.ofInt id) row = false)
      (values : ∀ name, new.get? name =
        if name = table.primaryKey then some (.ofInt id)
        else if name ∈ table.metadata.columnNames then
          some ((input.get? name).getD .null)
        else none)
      (inOrder : new.Ascending) :
      table.ChangesOneRow input rows (rows ++ [.object new]) [.ofInt id]

/-- No row has the greatest number of 64 bits as its id, so that there is a
number left for a new row. -/
def HasRoom (table : StoredTable) (rows : List Json) : Prop :=
  ∀ row ∈ rows, ∀ id,
    (row.get? table.primaryKey).bind (·.signedWord?) = some id →
      id < 9223372036854775807

theorem nextKey_le (room : table.HasRoom rows) :
    table.nextKey rows ≤ 9223372036854775807 := by
  unfold nextKey
  dsimp only
  cases greatest : (rows.filterMap fun row =>
      (row.get? table.primaryKey).bind (·.signedWord?)).max? with
  | none => decide
  | some bound =>
      have member := (List.max?_eq_some_iff.mp greatest).1
      obtain ⟨row, rowMember, numbered⟩ := List.mem_filterMap.mp member
      have below := room row rowMember bound numbered
      simp only [Option.getD_some]
      omega

/-- A write makes of the rows of its table what a write may make of them. -/
theorem changesOneRow_upsert (input : OrderedMembers)
    (room : table.HasRoom rows) :
    table.ChangesOneRow input rows (table.upsert input rows).1
      (table.upsert input rows).2 := by
  cases supplied : input.members.present? table.primaryKey with
  | none =>
      have inRange := nextKey_le room
      have written : table.upsert input rows =
          (rows ++ [.object ((table.newMembers input).insert table.primaryKey
            (.ofInt (table.nextKey rows)))], [.ofInt (table.nextKey rows)]) := by
        unfold upsert
        rw [supplied]
      rw [written]
      refine .assigns supplied (if_pos ⟨table.le_nextKey rows, inRange⟩)
        (not_holdsValue_nextKey inRange) ?_
        (Members.Ascending.insert (Members.ascending_ofList _) _ _)
      intro name
      rw [Members.get?_insert, get?_newMembers_eq]
  | some key =>
      have reported : (table.upsert input rows).2 = [] := by
        rw [upsert_reported, supplied]
      rw [reported]
      rcases holder_cases (holdsValue table.primaryKey key) rows with
        absent | ⟨before, row, after, rfl, passedOver, holds⟩
      · rw [upsert_of_absent supplied absent]
        exact .appends supplied absent (table.get?_newMembers_eq input)
          (Members.ascending_ofList _)
      · rw [upsert_of_held supplied passedOver holds]
        obtain ⟨old, rfl⟩ := exists_members_of_holdsValue holds
        exact .overwrites supplied passedOver holds
          (input.ascending.get?_insertAll old)
          fun oldAscending => oldAscending.insertAll input

end StoredTable

end TableGateway
