import TableGateway.Proofs.Filter.JoinKey
import TableGateway.Proofs.LastWrite
import TableGateway.Store.Basic

/-!
# What a write does to rows

A write puts one row at one place: over the first row that holds the key of the
input, or else behind all others (`StoredTable.upsert_rows`). The row put there
has the written key in the column of keys (`StoredTable.present?_writtenRow`),
and no row before that place holds it (`StoredTable.not_holdsValue_before`).
-/

namespace TableGateway

/-! ## Members -/

namespace Members

theorem get?_insertAll (members additions : Members) (key : String) :
    get? (insertAll members additions) key =
      (lastWrite key additions).or (get? members key) := by
  induction additions generalizing members with
  | nil => rfl
  | cons addition rest inductionHypothesis =>
      obtain ⟨written, value⟩ := addition
      have step : insertAll members ((written, value) :: rest) =
          insertAll (insert written value members) rest := rfl
      rw [step, inductionHypothesis, get?_insert, lastWrite_cons]
      by_cases same : key = written
      · cases lastWrite key rest <;> simp [same]
      · cases lastWrite key rest <;> simp [same]

theorem Ascending.nodup {members : Members} (ascending : Ascending members) :
    (members.map Prod.fst).Nodup :=
  ascending.imp fun before => String.ne_of_lt before

/-- Among ascending members, the last one of a key is the only one. -/
theorem Ascending.lastWrite_eq {members : Members}
    (ascending : Ascending members) (key : String) :
    lastWrite key members = get? members key := by
  cases found : get? members key with
  | none =>
      rw [lastWrite_eq_none_iff]
      have absent :=
        (OrderedMap.findEntry_eq_none_iff key members).mp found
      intro value member
      exact absent (List.mem_map_of_mem member)
  | some value =>
      exact lastWrite_eq_some_of_nodup ascending.nodup
        (OrderedMap.mem_of_findEntry found)

/-- Members that are written over others in ascending order are found first. -/
theorem Ascending.get?_insertAll {additions : Members}
    (ascending : Ascending additions) (members : Members) (key : String) :
    (members.insertAll additions).get? key =
      (additions.get? key).or (members.get? key) := by
  rw [Members.get?_insertAll, ascending.lastWrite_eq]

theorem get?_of_present? {members : Members} {key : String} {value : Json}
    (present : members.present? key = some value) :
    members.get? key = some value := by
  unfold present? at present
  exact (Option.filter_eq_some_iff.mp present).1

end Members

/-! ## Keys of new rows -/

namespace StoredTable

variable {table : StoredTable} {input : Members} {rows : List Json}

/-- The members of a new row are those of the input, as far as they are
columns, with null for the others. -/
theorem get?_newMembers {name : String}
    (isColumn : (table.metadata.column? name).isSome) :
    (table.newMembers input).get? name =
      some ((input.get? name).getD .null) := by
  let value (name : String) : Json := (input.get? name).getD .null
  let writes := table.metadata.columns.map fun column =>
    (column.name, value column.name)
  obtain ⟨column, found⟩ := Option.isSome_iff_exists.mp isColumn
  have named : column.name = name := by
    simpa using List.find?_some found
  have member : (name, value name) ∈ writes := by
    rw [← named]
    exact List.mem_map_of_mem (List.mem_of_find?_eq_some found)
  have present := (isSome_lastWrite_iff name writes).mpr ⟨_, member⟩
  obtain ⟨last, lastEq⟩ := Option.isSome_iff_exists.mp present
  obtain ⟨other, _, otherEq⟩ := List.mem_map.mp (mem_of_lastWrite lastEq)
  obtain ⟨otherNamed, valueEq⟩ := Prod.mk.inj otherEq
  have newEq : table.newMembers input = Members.insertAll [] writes := rfl
  rw [newEq, Members.get?_insertAll, lastEq, ← valueEq, otherNamed]
  rfl

theorem isSome_column?_of_get? {name : String} {value : Json}
    (columnsKnown : table.unknownColumn? input = none)
    (given : input.get? name = some value) :
    (table.metadata.column? name).isSome := by
  have member : name ∈ input.map Prod.fst :=
    List.mem_map_of_mem (OrderedMap.mem_of_findEntry given)
  have isColumn := List.find?_eq_none.mp columnsKnown name member
  simpa [Option.isSome_iff_ne_none] using isColumn

theorem lt_nextKey {row : Json} {number : Int} (member : row ∈ rows)
    (numbered :
      (row.get? table.primaryKey).bind (·.signedWord?) = some number) :
    number < table.nextKey rows := by
  unfold nextKey
  dsimp only
  have used : number ∈ rows.filterMap fun row =>
      (row.get? table.primaryKey).bind (·.signedWord?) :=
    List.mem_filterMap.mpr ⟨row, member, numbered⟩
  cases greatest : (rows.filterMap fun row =>
      (row.get? table.primaryKey).bind (·.signedWord?)).max? with
  | none =>
      rw [List.max?_eq_none_iff] at greatest
      rw [greatest] at used
      cases used
  | some bound =>
      have upper := (List.max?_eq_some_iff.mp greatest).2 number used
      simp only [Option.getD_some]
      omega

theorem signedWord?_bounds {value : Json} {number : Int}
    (found : value.signedWord? = some number) :
    value = .ofInt number ∧ -9223372036854775808 ≤ number := by
  cases value with
  | number size =>
      cases size with
      | integer value =>
          simp only [Json.signedWord?, Number.signedWord?] at found
          split at found
          · cases found
            rename_i inRange
            exact ⟨rfl, inRange.1⟩
          · cases found
      | double value => cases found
  | _ => cases found

theorem le_nextKey (table : StoredTable) (rows : List Json) :
    -9223372036854775808 ≤ table.nextKey rows := by
  unfold nextKey
  dsimp only
  cases greatest : (rows.filterMap fun row =>
      (row.get? table.primaryKey).bind (·.signedWord?)).max? with
  | none => decide
  | some bound =>
      have member := (List.max?_eq_some_iff.mp greatest).1
      obtain ⟨row, _, numbered⟩ := List.mem_filterMap.mp member
      obtain ⟨value, _, isWord⟩ := Option.bind_eq_some_iff.mp numbered
      have lower := (signedWord?_bounds isWord).2
      simp only [Option.getD_some]
      omega

/-- A row without a key gets a number of 64 bits. -/
def HasNumber (table : StoredTable) (input : Members) (rows : List Json) :
    Prop :=
  input.present? table.primaryKey = none →
    table.nextKey rows ≤ 9223372036854775807

/-- No row holds the next number, if that is one of 64 bits. -/
theorem not_holdsValue_nextKey
    (inRange : table.nextKey rows ≤ 9223372036854775807) :
    ∀ row ∈ rows,
      holdsValue table.primaryKey (.ofInt (table.nextKey rows)) row =
        false := by
  intro row member
  by_contra holds
  rw [Bool.not_eq_false] at holds
  unfold holdsValue at holds
  cases found : row.get? table.primaryKey with
  | none =>
      rw [found] at holds
      cases holds
  | some value =>
      rw [found] at holds
      have valueEq := (JoinKey.same_toJson_iff value
        (.integer (table.nextKey rows))).mp holds
      have isWord : value.signedWord? = some (table.nextKey rows) := by
        rw [valueEq]
        exact if_pos ⟨le_nextKey table rows, inRange⟩
      have numbered : (row.get? table.primaryKey).bind (·.signedWord?) =
          some (table.nextKey rows) := by
        rw [found]
        exact isWord
      exact absurd (lt_nextKey member numbered) (Int.lt_irrefl _)

/-! ## The row that is written -/

/-- The key under which a row is written: that of the input, or the next
number. -/
def writtenKey (table : StoredTable) (input : Members) (rows : List Json) :
    Json :=
  (input.present? table.primaryKey).getD (.ofInt (table.nextKey rows))

/-- Where a row is written: at the first row that holds the key of the input,
or else behind the others. -/
def writtenPlace (table : StoredTable) (input : Members)
    (rows : List Json) : Nat :=
  match input.present? table.primaryKey with
  | some key => rows.findIdx (holdsValue table.primaryKey key)
  | none => rows.length

def addedMembers (table : StoredTable) (input : Members)
    (rows : List Json) : Members :=
  match input.present? table.primaryKey with
  | some _ => table.newMembers input
  | none =>
      (table.newMembers input).insert table.primaryKey
        (.ofInt (table.nextKey rows))

/-- The row that stands at the place of a write afterwards. -/
def writtenRow (table : StoredTable) (input : Members)
    (rows : List Json) : Json :=
  match rows[table.writtenPlace input rows]? with
  | some old => overwriteRow input old
  | none => .object (table.addedMembers input rows)

theorem overwriteFirst?_eq (test : Json → Bool) (input : Members)
    (rows : List Json) :
    overwriteFirst? test input rows =
      rows[rows.findIdx test]?.map fun old =>
        rows.take (rows.findIdx test) ++
          overwriteRow input old :: rows.drop (rows.findIdx test + 1) := by
  induction rows with
  | nil => rfl
  | cons row rest inductionHypothesis =>
      rw [List.findIdx_cons]
      unfold overwriteFirst?
      cases satisfied : test row with
      | true => simp
      | false => simp [inductionHypothesis, Function.comp_def]

/-- A write changes the row at one place, or adds one behind all others. -/
theorem upsert_rows (table : StoredTable) (input : Members)
    (rows : List Json) :
    (table.upsert input rows).1 =
      rows.take (table.writtenPlace input rows) ++
        table.writtenRow input rows ::
          rows.drop (table.writtenPlace input rows + 1) := by
  unfold upsert writtenRow
  cases old : rows[table.writtenPlace input rows]? with
  | none =>
      have behind := List.getElem?_eq_none_iff.mp old
      rw [List.take_of_length_le behind,
        List.drop_eq_nil_of_le (Nat.le_succ_of_le behind)]
      unfold writtenPlace at old
      unfold addedMembers
      cases supplied : input.present? table.primaryKey with
      | none => rfl
      | some key =>
          simp only [supplied] at old
          simp [overwriteFirst?_eq, old]
  | some row =>
      unfold writtenPlace at old ⊢
      cases supplied : input.present? table.primaryKey with
      | none => simp [supplied] at old
      | some key =>
          simp only [supplied] at old
          simp [overwriteFirst?_eq, old]

theorem writtenPlace_le (table : StoredTable) (input : Members)
    (rows : List Json) : table.writtenPlace input rows ≤ rows.length := by
  unfold writtenPlace
  split
  · exact List.findIdx_le_length
  · exact Nat.le_refl _

theorem getElem?_upsert (table : StoredTable) (input : Members)
    (rows : List Json) :
    (table.upsert input rows).1[table.writtenPlace input rows]? =
      some (table.writtenRow input rows) := by
  have placed := List.length_take_of_le (table.writtenPlace_le input rows)
  rw [upsert_rows, List.getElem?_append_right (Nat.le_of_eq placed), placed,
    Nat.sub_self]
  rfl

/-- Only the number of a row without a key is reported. -/
theorem upsert_reported (table : StoredTable) (input : Members)
    (rows : List Json) :
    (table.upsert input rows).2 =
      match input.present? table.primaryKey with
      | some _ => []
      | none => [.ofInt (table.nextKey rows)] := by
  unfold upsert
  cases input.present? table.primaryKey with
  | none => rfl
  | some key =>
      dsimp only
      split <;> rfl

/-! ## The key of the row -/

theorem get?_addedMembers
    (columnsKnown : table.unknownColumn? input = none) (rows : List Json) :
    (table.addedMembers input rows).get? table.primaryKey =
      some (table.writtenKey input rows) := by
  unfold addedMembers writtenKey
  cases supplied : input.present? table.primaryKey with
  | none => exact (Members.get?_insert _ _ _ _).trans (if_pos rfl)
  | some key =>
      have given := Members.get?_of_present? supplied
      have isColumn := isSome_column?_of_get? columnsKnown given
      refine (get?_newMembers isColumn).trans ?_
      rw [given]
      rfl

/-- A row that is written over holds the key of the input. -/
theorem holdsValue_of_getElem?_writtenPlace {old : Json}
    (found : rows[table.writtenPlace input rows]? = some old) :
    ∃ key, input.present? table.primaryKey = some key ∧
      holdsValue table.primaryKey key old = true := by
  unfold writtenPlace at found
  cases supplied : input.present? table.primaryKey with
  | none => simp [supplied] at found
  | some key =>
      simp only [supplied] at found
      obtain ⟨bound, oldEq⟩ := List.getElem?_eq_some_iff.mp found
      refine ⟨key, rfl, ?_⟩
      rw [← oldEq]
      exact List.findIdx_getElem

theorem exists_members_of_holdsValue {column : String} {value row : Json}
    (holds : holdsValue column value row = true) :
    ∃ members, row = .object members := by
  cases row with
  | object members => exact ⟨members, rfl⟩
  | _ => cases holds

theorem writtenRow_ne_null (table : StoredTable) (input : Members)
    (rows : List Json) : table.writtenRow input rows ≠ .null := by
  unfold writtenRow
  cases found : rows[table.writtenPlace input rows]? with
  | none => nofun
  | some old =>
      obtain ⟨key, _, holds⟩ := holdsValue_of_getElem?_writtenPlace found
      obtain ⟨members, rfl⟩ := exists_members_of_holdsValue holds
      nofun

theorem get?_writtenRow {input : OrderedMembers}
    (columnsKnown : table.unknownColumn? input = none) :
    (table.writtenRow input rows).get? table.primaryKey =
      some (table.writtenKey input rows) := by
  unfold writtenRow
  cases found : rows[table.writtenPlace input rows]? with
  | none => exact get?_addedMembers columnsKnown rows
  | some old =>
      obtain ⟨key, supplied, holds⟩ :=
        holdsValue_of_getElem?_writtenPlace found
      obtain ⟨members, rfl⟩ := exists_members_of_holdsValue holds
      have given := Members.get?_of_present? supplied
      have keyEq : table.writtenKey input rows = key := by
        simp [writtenKey, supplied]
      refine (input.ascending.get?_insertAll _ _).trans ?_
      rw [given, keyEq]
      rfl

theorem isNull_writtenKey (table : StoredTable) (input : Members)
    (rows : List Json) :
    (table.writtenKey input rows).isNull = false := by
  unfold writtenKey
  cases supplied : input.present? table.primaryKey with
  | none => rfl
  | some key =>
      have present := (Option.filter_eq_some_iff.mp supplied).2
      simpa using present

theorem present?_writtenRow {input : OrderedMembers}
    (columnsKnown : table.unknownColumn? input = none) :
    (table.writtenRow input rows).present? table.primaryKey =
      some (table.writtenKey input rows) := by
  unfold Json.present?
  rw [get?_writtenRow columnsKnown, Option.filter_some,
    isNull_writtenKey]
  rfl

/-- No row before the place of a write holds the written key. -/
theorem not_holdsValue_before
    (numbered : table.HasNumber input rows) :
    ∀ row ∈ rows.take (table.writtenPlace input rows),
      holdsValue table.primaryKey (table.writtenKey input rows) row =
        false := by
  intro row member
  unfold writtenPlace at member
  unfold writtenKey
  cases supplied : input.present? table.primaryKey with
  | none =>
      exact not_holdsValue_nextKey (numbered supplied) row
        (List.mem_of_mem_take member)
  | some key =>
      simp only [supplied] at member
      obtain ⟨index, before, rowEq⟩ := List.mem_take_iff_getElem.mp member
      have bound : index <
          rows.findIdx (holdsValue table.primaryKey key) := by
        omega
      have passedOver := List.not_of_lt_findIdx bound
      rw [rowEq] at passedOver
      simpa using passedOver

end StoredTable

/-! ## Writing to a store -/

namespace Store

variable {store : Store} {table : String} {stored : StoredTable}
  {input : Members}

theorem rows_setRows (store : Store) (table : String) (rows : List Json) :
    (store.setRows table rows).rows table = rows := by
  unfold setRows Store.rows OrderedMap.getD
  dsimp only
  rw [OrderedMap.get?_insert_self]
  rfl

theorem rows_setRows_of_ne (store : Store) {table other : String}
    (different : other ≠ table) (rows : List Json) :
    (store.setRows table rows).rows other = store.rows other := by
  simp [setRows, Store.rows, OrderedMap.getD,
    OrderedMap.get?_insert_of_ne _ _ different]

theorem knownTable_of_known (known : store.table? table = some stored) :
    store.knownTable table = .ok stored := by
  unfold knownTable
  rw [known]

/-- A store that knows the table and the columns writes the row. -/
theorem putItem_of_known (known : store.table? table = some stored)
    (columnsKnown : stored.unknownColumn? input = none) :
    store.putItem table input =
      (.ok (stored.upsert input (store.rows table)).2,
        (store.record .putItem table none).setRows table
          (stored.upsert input (store.rows table)).1) := by
  unfold putItem
  rw [knownTable_of_known known]
  dsimp only
  rw [columnsKnown]

/-- Writes to a table that a store does not know are refused. -/
theorem putItem_of_unknown_table (unknown : store.table? table = none) :
    store.putItem table input =
      (.error (.unknownTable table), store.record .putItem table none) := by
  simp [putItem, knownTable, unknown]

theorem putItem_of_unknown_column {column : String}
    (known : store.table? table = some stored)
    (unknown : stored.unknownColumn? input = some column) :
    store.putItem table input =
      (.error (.unknownColumn table column),
        store.record .putItem table none) := by
  simp [putItem, knownTable_of_known known, unknown]

end Store

end TableGateway
