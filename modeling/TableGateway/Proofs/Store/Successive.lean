import TableGateway.Proofs.Store.KeyRuns
import TableGateway.Proofs.Store.OneRow

/-!
# Two writes, one after the other

Two writes under the same key come to one write of both inputs, the second laid
over the first (`Store.rows_write_write`), so that a write under a key may be
repeated. Two writes under different keys, or to different tables, may change
places (`Store.write_comm`): all rows are the same, and in the same order unless
both writes have added a row to the same table.
-/

namespace TableGateway

/-! ## One input over another -/

namespace OrderedMembers

/-- Members with others laid over them. -/
def insertAll (first : OrderedMembers) (second : Members) : OrderedMembers :=
  ⟨first.members.insertAll second, first.ascending.insertAll second⟩

theorem get?_insertAll (first second : OrderedMembers) (name : String) :
    (first.insertAll second).members.get? name =
      (second.members.get? name).or (first.members.get? name) :=
  second.ascending.get?_insertAll first.members name

theorem insertAll_self (members : OrderedMembers) :
    members.insertAll members = members := by
  have same : (members.insertAll members).members = members.members := by
    refine (members.insertAll members).ascending.ext members.ascending ?_
    intro name
    rw [get?_insertAll, Option.or_self]
  unfold insertAll at same ⊢
  congr

end OrderedMembers

/-! ## Rows of one table -/

namespace StoredTable

variable {table : StoredTable} {first second : OrderedMembers}
  {rows : List Json} {key otherKey : Json}

theorem overwriteRow_overwriteRow (first second : OrderedMembers)
    (row : Json) :
    overwriteRow second (overwriteRow first row) =
      overwriteRow (first.insertAll second) row := by
  cases row with
  | object members =>
      exact congrArg Json.object
        (Members.insertAll_insertAll first.ascending members second)
  | _ => rfl

/-- Columns that are written over a new row might as well have been in its
input. -/
theorem insertAll_newMembers
    (columnsKnown : table.unknownColumn? second = none) :
    (table.newMembers first).insertAll second =
      table.newMembers (first.insertAll second) := by
  refine Members.Ascending.ext
    ((Members.ascending_ofList _).insertAll second)
    (Members.ascending_ofList _) ?_
  intro name
  rw [second.ascending.get?_insertAll, get?_newMembers_eq, get?_newMembers_eq,
    first.get?_insertAll second]
  by_cases isColumn : name ∈ table.metadata.columnNames
  · rw [if_pos isColumn, if_pos isColumn]
    cases second.members.get? name <;> rfl
  · have absent : second.members.get? name = none := by
      by_contra given
      obtain ⟨value, found⟩ := Option.ne_none_iff_exists'.mp given
      have isSome := isSome_column?_of_get? columnsKnown found
      exact isColumn ((table.metadata.isSome_column?_iff name).mp isSome)
    rw [if_neg isColumn, if_neg isColumn, absent]
    rfl

theorem unknownColumn?_insertAll
    (firstKnown : table.unknownColumn? first = none)
    (secondKnown : table.unknownColumn? second = none) :
    table.unknownColumn? (first.insertAll second) = none := by
  rw [unknownColumn?_eq_none_iff] at firstKnown secondKnown ⊢
  intro name member
  rcases (Members.mem_keys_insertAll _ _ name).mp member with inFirst | inSecond
  · exact firstKnown name inFirst
  · exact secondKnown name inSecond

theorem present?_insertAll {column : String}
    (present : second.members.present? column = some key) :
    (first.insertAll second).members.present? column = some key := by
  have given := Members.get?_of_present? present
  unfold Members.present? at present ⊢
  rw [given] at present
  rw [first.get?_insertAll second, given, Option.some_or, present]

/-- Two writes under the same key are one write of both inputs. -/
theorem upsert_upsert
    (firstKnown : table.unknownColumn? first = none)
    (secondKnown : table.unknownColumn? second = none)
    (firstSupplied : first.members.present? table.primaryKey = some key)
    (secondSupplied :
      second.members.present? table.primaryKey = some otherKey)
    (agree : key.same otherKey = true) (rows : List Json) :
    (table.upsert second (table.upsert first rows).1).1 =
      (table.upsert (first.insertAll second) rows).1 := by
  have bothSupplied :
      (first.insertAll second).members.present? table.primaryKey =
        some otherKey := present?_insertAll secondSupplied
  have sameRows (row : Json) : holdsValue table.primaryKey key row =
      holdsValue table.primaryKey otherKey row :=
    holdsValue_congr agree table.primaryKey row
  rcases holder_cases (holdsValue table.primaryKey key) rows with
    absent | ⟨before, row, after, rfl, passedOver, holds⟩
  · -- The first write adds a row, and the second one goes over that.
    rw [upsert_of_absent firstSupplied absent]
    simp only [sameRows] at absent
    rw [upsert_of_absent bothSupplied absent,
      upsert_of_held secondSupplied absent
        ((holdsValue_newMembers firstKnown firstSupplied otherKey).trans agree),
      ← insertAll_newMembers secondKnown]
    rfl
  · have heldAfter := holdsValue_overwriteRow firstSupplied holds otherKey
    rw [upsert_of_held firstSupplied passedOver holds]
    simp only [sameRows] at passedOver holds
    rw [upsert_of_held bothSupplied passedOver holds,
      upsert_of_held secondSupplied passedOver (heldAfter.trans agree),
      overwriteRow_overwriteRow]

/-- A row that holds a key holds no key that is not the same. -/
theorem holdsValue_of_different {column : String} {row : Json}
    (different : key.same otherKey = false)
    (holds : holdsValue column key row = true) :
    holdsValue column otherKey row = false := by
  cases found : row.get? column with
  | none => simp [holdsValue, found]
  | some held =>
      rw [holdsValue_of_get? found] at holds ⊢
      rw [← different]
      exact Bool.eq_iff_iff.mpr
        ⟨Json.same_of_same_left holds, Json.same_trans holds⟩

/-- A row that one write goes over is passed over by the other. -/
theorem upsert_comm_cons_of_holds {row : Json}
    (supplied : first.members.present? table.primaryKey = some key)
    (otherSupplied :
      second.members.present? table.primaryKey = some otherKey)
    (different : key.same otherKey = false)
    (holds : holdsValue table.primaryKey key row = true)
    (rest : List Json) :
    (table.upsert second (table.upsert first (row :: rest)).1).1 =
      (table.upsert first (table.upsert second (row :: rest)).1).1 := by
  have passedOver := holdsValue_of_different different holds
  have passedOverAfter :=
    (holdsValue_overwriteRow supplied holds otherKey).trans different
  rw [upsert_cons_of_holds supplied holds,
    upsert_cons_of_not_holds otherSupplied passedOverAfter,
    upsert_cons_of_not_holds otherSupplied passedOver,
    upsert_cons_of_holds supplied holds]

/-- A write makes no difference to whether another key is held. -/
theorem forall_upsert_iff (firstKnown : table.unknownColumn? first = none)
    (firstSupplied : first.members.present? table.primaryKey = some key)
    (different : key.same otherKey = false) :
    (∀ row ∈ (table.upsert first rows).1,
        holdsValue table.primaryKey otherKey row = false) ↔
      ∀ row ∈ rows, holdsValue table.primaryKey otherKey row = false := by
  rcases holder_cases (holdsValue table.primaryKey key) rows with
    absent | ⟨before, row, after, rfl, passedOver, holds⟩
  · have added :=
      (holdsValue_newMembers firstKnown firstSupplied otherKey).trans different
    rw [upsert_of_absent firstSupplied absent, List.forall_mem_append,
      List.forall_mem_singleton, and_iff_left added]
  · have written :=
      (holdsValue_overwriteRow firstSupplied holds otherKey).trans different
    have old := holdsValue_of_different different holds
    rw [upsert_of_held firstSupplied passedOver holds, List.forall_mem_append,
      List.forall_mem_append, List.forall_mem_cons, List.forall_mem_cons,
      and_iff_right written, and_iff_right old]

section Different

variable (firstSupplied : first.members.present? table.primaryKey = some key)
  (secondSupplied : second.members.present? table.primaryKey = some otherKey)
  (different : key.same otherKey = false)

include firstSupplied secondSupplied different

/-- Writes under different keys may change places where one of them goes over a
row that is there. -/
theorem upsert_comm_of_held
    (held : ∃ row ∈ rows, holdsValue table.primaryKey key row = true ∨
      holdsValue table.primaryKey otherKey row = true) :
    (table.upsert second (table.upsert first rows).1).1 =
      (table.upsert first (table.upsert second rows).1).1 := by
  induction rows with
  | nil => simp at held
  | cons row rest inductionHypothesis =>
      cases holds : holdsValue table.primaryKey key row with
      | true =>
          exact upsert_comm_cons_of_holds firstSupplied secondSupplied
            different holds rest
      | false =>
          cases otherHolds : holdsValue table.primaryKey otherKey row with
          | true =>
              rw [Json.same_comm] at different
              exact (upsert_comm_cons_of_holds secondSupplied firstSupplied
                different otherHolds rest).symm
          | false =>
              have heldBehind : ∃ row ∈ rest,
                  holdsValue table.primaryKey key row = true ∨
                    holdsValue table.primaryKey otherKey row = true := by
                simpa [holds, otherHolds] using held
              rw [upsert_cons_of_not_holds firstSupplied holds,
                upsert_cons_of_not_holds secondSupplied otherHolds,
                upsert_cons_of_not_holds secondSupplied otherHolds,
                upsert_cons_of_not_holds firstSupplied holds,
                inductionHypothesis heldBehind]

/-- Where both writes add a row, the rows added change places. -/
theorem upsert_comm_of_absent
    (firstKnown : table.unknownColumn? first = none)
    (secondKnown : table.unknownColumn? second = none)
    (firstAbsent : ∀ row ∈ rows,
      holdsValue table.primaryKey key row = false)
    (secondAbsent : ∀ row ∈ rows,
      holdsValue table.primaryKey otherKey row = false) :
    ((table.upsert second (table.upsert first rows).1).1).Perm
      (table.upsert first (table.upsert second rows).1).1 := by
  have stillAbsent : ∀ row ∈ rows ++ [.object (table.newMembers first)],
      holdsValue table.primaryKey otherKey row = false := by
    rw [List.forall_mem_append, List.forall_mem_singleton]
    exact ⟨secondAbsent,
      (holdsValue_newMembers firstKnown firstSupplied otherKey).trans different⟩
  have stillAbsentToo : ∀ row ∈ rows ++ [.object (table.newMembers second)],
      holdsValue table.primaryKey key row = false := by
    rw [List.forall_mem_append, List.forall_mem_singleton]
    rw [Json.same_comm] at different
    exact ⟨firstAbsent,
      (holdsValue_newMembers secondKnown secondSupplied key).trans different⟩
  rw [upsert_of_absent firstSupplied firstAbsent,
    upsert_of_absent secondSupplied stillAbsent,
    upsert_of_absent secondSupplied secondAbsent,
    upsert_of_absent firstSupplied stillAbsentToo, List.append_assoc,
    List.append_assoc]
  exact (List.Perm.swap _ _ []).append_left rows

end Different

end StoredTable

/-! ## Writes to a store -/

namespace RowWrite

/-- One write for two: the input of the second laid over that of the first. -/
def overlaid (first second : RowWrite) : RowWrite where
  table := first.table
  input := first.input.insertAll second.input

theorem overlaid_self (row : RowWrite) : row.overlaid row = row := by
  unfold overlaid
  rw [OrderedMembers.insertAll_self]

end RowWrite

namespace Store

variable {store : Store} {first second row : RowWrite}
  {stored : StoredTable} {keys : List Json}

/-- A write that is not refused has a table and columns that are known. -/
theorem exists_known_of_putItem {table : String} {input : Members}
    (taken : (store.putItem table input).1 = .ok keys) :
    ∃ stored, store.table? table = some stored ∧
      stored.unknownColumn? input = none ∧
      keys = (stored.upsert input (store.rows table)).2 := by
  cases known : store.table? table with
  | none =>
      rw [putItem_of_unknown_table known] at taken
      cases taken
  | some stored =>
      cases unknown : stored.unknownColumn? input with
      | some column =>
          rw [putItem_of_unknown_column known unknown] at taken
          cases taken
      | none =>
          rw [putItem_of_known known unknown] at taken
          exact ⟨stored, rfl, unknown, (Except.ok.inj taken).symm⟩

theorem table?_write (store : Store) (row : RowWrite) (name : String) :
    (store.write row).table? name = store.table? name :=
  table?_eq_of_tables (store.write_cases row).1 name

theorem rows_write_of_ne {name : String} (different : name ≠ row.table) :
    (store.write row).rows name = store.rows name := by
  rcases (store.write_cases row).2 with ⟨_, rowsEq⟩ |
    ⟨_, _, _, _, _, othersEq⟩
  · exact rowsEq name
  · exact othersEq name different

theorem rows_write (known : store.table? row.table = some stored)
    (columnsKnown : stored.unknownColumn? row.input = none) :
    (store.write row).rows row.table =
      (stored.upsert row.input (store.rows row.table)).1 := by
  unfold write
  rw [putItem_of_known known columnsKnown]
  exact rows_setRows _ _ _

/-- A write under a key gives no key to a row. -/
theorem putItem_of_supplied {key : Json}
    (known : store.table? row.table = some stored)
    (columnsKnown : stored.unknownColumn? row.input = none)
    (supplied : row.input.members.present? stored.primaryKey = some key) :
    (store.putItem row.table row.input).1 = .ok [] := by
  rw [putItem_of_known known columnsKnown, stored.upsert_reported, supplied]

/-- What a write makes of a table depends on the table alone. -/
theorem putItem_congr {other : Store} {table : String} {input : Members}
    (knownEq : other.table? table = store.table? table)
    (rowsEq : other.rows table = store.rows table) :
    (other.putItem table input).1 = (store.putItem table input).1 ∧
      (other.putItem table input).2.rows table =
        (store.putItem table input).2.rows table := by
  cases known : store.table? table with
  | none =>
      rw [known] at knownEq
      rw [putItem_of_unknown_table known, putItem_of_unknown_table knownEq]
      exact ⟨rfl, rowsEq⟩
  | some stored =>
      rw [known] at knownEq
      cases unknown : stored.unknownColumn? input with
      | some column =>
          rw [putItem_of_unknown_column known unknown,
            putItem_of_unknown_column knownEq unknown]
          exact ⟨rfl, rowsEq⟩
      | none =>
          rw [putItem_of_known known unknown, putItem_of_known knownEq unknown,
            rowsEq]
          exact ⟨rfl, (rows_setRows _ _ _).trans (rows_setRows _ _ _).symm⟩

/-- Two writes to one table are two upserts of its rows. -/
theorem rows_write_twice (known : store.table? first.table = some stored)
    (sameTable : second.table = first.table)
    (firstKnown : stored.unknownColumn? first.input = none)
    (secondKnown : stored.unknownColumn? second.input = none) :
    ((store.write first).write second).rows first.table =
      (stored.upsert second.input
        (stored.upsert first.input (store.rows first.table)).1).1 := by
  have knownAfter : (store.write first).table? second.table = some stored := by
    rw [table?_write, sameTable, known]
  rw [← rows_write known firstKnown, ← sameTable]
  exact rows_write knownAfter secondKnown

/-! ## The same key twice -/

theorem rows_write_overlaid {key otherKey : Json}
    (known : store.table? first.table = some stored)
    (sameTable : second.table = first.table)
    (firstKnown : stored.unknownColumn? first.input = none)
    (secondKnown : stored.unknownColumn? second.input = none)
    (firstSupplied : first.input.members.present? stored.primaryKey = some key)
    (secondSupplied :
      second.input.members.present? stored.primaryKey = some otherKey)
    (agree : key.same otherKey = true) :
    ((store.write first).write second).rows =
      (store.write (first.overlaid second)).rows := by
  have bothKnown : stored.unknownColumn? (first.overlaid second).input = none :=
    StoredTable.unknownColumn?_insertAll firstKnown secondKnown
  have known' : store.table? (first.overlaid second).table = some stored :=
    known
  funext name
  by_cases here : name = first.table
  · calc ((store.write first).write second).rows name
        = (stored.upsert second.input
            (stored.upsert first.input (store.rows first.table)).1).1 := by
          rw [here, rows_write_twice known sameTable firstKnown secondKnown]
      _ = (stored.upsert (first.overlaid second).input
            (store.rows first.table)).1 :=
          StoredTable.upsert_upsert firstKnown secondKnown firstSupplied
            secondSupplied agree _
      _ = (store.write (first.overlaid second)).rows name := by
          rw [here]
          exact (rows_write known' bothKnown).symm
  · have hereNeither : name ≠ (first.overlaid second).table := here
    rw [rows_write_of_ne (sameTable ▸ here), rows_write_of_ne here,
      rows_write_of_ne hereNeither]

/-- In any store, two writes to a known table whose inputs name columns only and
carry the same key leave the rows of every table as one write of both inputs
does, and all of them are accepted. So a write under a key may be repeated. -/
theorem rows_write_write {key otherKey : Json}
    (known : store.table? first.table = some stored)
    (sameTable : second.table = first.table)
    (firstColumns : ∀ name ∈ first.input.members.map Prod.fst,
      name ∈ stored.metadata.columnNames)
    (secondColumns : ∀ name ∈ second.input.members.map Prod.fst,
      name ∈ stored.metadata.columnNames)
    (firstSupplied : first.input.members.present? stored.primaryKey = some key)
    (secondSupplied :
      second.input.members.present? stored.primaryKey = some otherKey)
    (agree : key.same otherKey = true) :
    (store.putItem first.table first.input).1 = .ok [] ∧
    ((store.write first).putItem second.table second.input).1 = .ok [] ∧
    (store.putItem first.table (first.overlaid second).input).1 = .ok [] ∧
    ((store.write first).write second).rows =
      (store.write (first.overlaid second)).rows ∧
    ((store.write first).write first).rows = (store.write first).rows := by
  rw [← StoredTable.unknownColumn?_eq_none_iff] at firstColumns secondColumns
  have knownAfter : (store.write first).table? second.table = some stored := by
    rw [table?_write, sameTable, known]
  have known' : store.table? (first.overlaid second).table = some stored :=
    known
  have bothColumns :
      stored.unknownColumn? (first.overlaid second).input = none :=
    StoredTable.unknownColumn?_insertAll firstColumns secondColumns
  have bothSupplied : (first.overlaid second).input.members.present?
      stored.primaryKey = some otherKey :=
    StoredTable.present?_insertAll secondSupplied
  refine ⟨putItem_of_supplied known firstColumns firstSupplied,
    putItem_of_supplied knownAfter secondColumns secondSupplied,
    putItem_of_supplied known' bothColumns bothSupplied,
    rows_write_overlaid known sameTable firstColumns secondColumns
      firstSupplied secondSupplied agree, ?_⟩
  have repeated := rows_write_overlaid known rfl firstColumns firstColumns
    firstSupplied firstSupplied key.same_refl
  rwa [first.overlaid_self] at repeated

/-- A write to the table of parcels, under a key. -/
def parcelWrite (key : Json) (name : String) : RowWrite where
  table := "parcel"
  input := ⟨[("id", key), ("name", .string name)], by
    have keysAscend : (["id", "name"] : List String).Pairwise (· < ·) := by
      decide
    exact keysAscend⟩

/-- The two zeros are one key, which a row of the table holds. -/
theorem rows_write_write_zeros :
    let zero (negative : Bool) : Json := .number (.double (.zero negative))
    let first := parcelWrite (zero false) "first"
    let second := parcelWrite (zero true) "second"
    (zero false).same (zero true) = true ∧
    ((parcelStore.write first).write second).rows =
      (parcelStore.write (first.overlaid second)).rows ∧
    ((parcelStore.write first).write first).rows =
      (parcelStore.write first).rows := by
  intro zero first second
  have known : parcelStore.table? first.table = some parcelTable := rfl
  have columns : ∀ name ∈ ["id", "name"],
      name ∈ parcelTable.metadata.columnNames := by decide
  have firstSupplied : first.input.members.present? parcelTable.primaryKey =
      some (zero false) := rfl
  have secondSupplied : second.input.members.present? parcelTable.primaryKey =
      some (zero true) := rfl
  have sameTable : second.table = first.table := rfl
  have merged := rows_write_write known sameTable columns columns firstSupplied
    secondSupplied rfl
  exact ⟨rfl, merged.2.2.2⟩

/-! ## Different keys or tables -/

/-- A write adds a row behind all others of its table. -/
def Appends (store : Store) (row : RowWrite) : Prop :=
  ∃ added,
    (store.write row).rows row.table = store.rows row.table ++ [added]

theorem appends_iff {key : Json}
    (known : store.table? row.table = some stored)
    (columnsKnown : stored.unknownColumn? row.input = none)
    (supplied : row.input.members.present? stored.primaryKey = some key) :
    store.Appends row ↔ ∀ old ∈ store.rows row.table,
      holdsValue stored.primaryKey key old = false := by
  unfold Appends
  rw [rows_write known columnsKnown]
  rcases StoredTable.holder_cases (holdsValue stored.primaryKey key)
      (store.rows row.table) with
    absent | ⟨before, old, after, rowsEq, passedOver, holds⟩
  · exact iff_of_true ⟨_, StoredTable.upsert_of_absent supplied absent⟩ absent
  · rw [rowsEq, StoredTable.upsert_of_held supplied passedOver holds]
    refine iff_of_false ?_ ?_
    · rintro ⟨added, sameRows⟩
      have lengths := congrArg List.length sameRows
      simp at lengths
    · intro absent
      have notHeld := absent old (by simp)
      rw [holds] at notHeld
      cases notHeld

theorem appends_congr {other : Store}
    (knownEq : other.table? row.table = store.table? row.table)
    (rowsEq : other.rows row.table = store.rows row.table) :
    other.Appends row ↔ store.Appends row := by
  have written : (other.write row).rows row.table =
      (store.write row).rows row.table := (putItem_congr knownEq rowsEq).2
  unfold Appends
  rw [written, rowsEq]

/-- A write to another table makes no difference. -/
theorem rows_write_write_of_ne (different : first.table ≠ second.table) :
    ((store.write first).write second).rows first.table =
      ((store.write second).write first).rows first.table := by
  rw [rows_write_of_ne different]
  exact (putItem_congr (table?_write store second _)
    (rows_write_of_ne different)).2.symm

theorem rows_write_comm_of_tables_ne (different : first.table ≠ second.table) :
    ((store.write first).write second).rows =
      ((store.write second).write first).rows := by
  funext name
  by_cases atFirst : name = first.table
  · rw [atFirst]
    exact rows_write_write_of_ne different
  · by_cases atSecond : name = second.table
    · rw [atSecond]
      exact (rows_write_write_of_ne different.symm).symm
    · rw [rows_write_of_ne atSecond, rows_write_of_ne atFirst,
        rows_write_of_ne atFirst, rows_write_of_ne atSecond]

section KeysDiffer

variable {key otherKey : Json}
  (known : store.table? first.table = some stored)
  (sameTable : second.table = first.table)
  (firstKnown : stored.unknownColumn? first.input = none)
  (secondKnown : stored.unknownColumn? second.input = none)
  (firstSupplied : first.input.members.present? stored.primaryKey = some key)
  (secondSupplied :
    second.input.members.present? stored.primaryKey = some otherKey)
  (different : key.same otherKey = false)

include known sameTable firstKnown secondKnown firstSupplied secondSupplied
  different

/-- Under different keys, two writes to a table leave the same rows, in the same
order unless both add one. -/
theorem rows_write_comm_of_keys_differ :
    (((store.write first).write second).rows first.table).Perm
        (((store.write second).write first).rows first.table) ∧
      (¬(store.Appends first ∧ store.Appends second) →
        ((store.write first).write second).rows first.table =
          ((store.write second).write first).rows first.table) := by
  have knownToo : store.table? second.table = some stored := by
    rw [sameTable, known]
  have firstThen := rows_write_twice known sameTable firstKnown secondKnown
  have secondThen :=
    rows_write_twice knownToo sameTable.symm secondKnown firstKnown
  rw [sameTable] at secondThen
  rw [firstThen, secondThen]
  by_cases held : ∃ row ∈ store.rows first.table,
      holdsValue stored.primaryKey key row = true ∨
        holdsValue stored.primaryKey otherKey row = true
  · have same := StoredTable.upsert_comm_of_held firstSupplied secondSupplied
      different held
    exact ⟨.of_eq same, fun _ => same⟩
  · simp only [not_exists, not_and, not_or, Bool.not_eq_true] at held
    have firstAbsent : ∀ row ∈ store.rows first.table,
        holdsValue stored.primaryKey key row = false :=
      fun row member => (held row member).1
    have secondAbsent : ∀ row ∈ store.rows first.table,
        holdsValue stored.primaryKey otherKey row = false :=
      fun row member => (held row member).2
    refine ⟨StoredTable.upsert_comm_of_absent firstSupplied secondSupplied
      different firstKnown secondKnown firstAbsent secondAbsent, ?_⟩
    intro notBoth
    refine absurd ⟨?_, ?_⟩ notBoth
    · exact (appends_iff known firstKnown firstSupplied).mpr firstAbsent
    · rw [← sameTable] at secondAbsent
      exact (appends_iff knownToo secondKnown secondSupplied).mpr secondAbsent

theorem appends_write_iff_of_keys_differ :
    (store.write first).Appends second ↔ store.Appends second := by
  have knownToo : store.table? second.table = some stored := by
    rw [sameTable, known]
  have knownAfter : (store.write first).table? second.table = some stored :=
    (table?_write store first _).trans knownToo
  rw [appends_iff knownAfter secondKnown secondSupplied,
    appends_iff knownToo secondKnown secondSupplied, sameTable,
    rows_write known firstKnown,
    StoredTable.forall_upsert_iff firstKnown firstSupplied different]

end KeysDiffer

/-- Two writes may change places: in either order both are accepted with the same
ids, either one adds a row or not as it does without the other, and every table
has the same rows afterwards, in the same order unless both have added one. -/
structure Commutes (store : Store) (first second : RowWrite) : Prop where
  firstTaken : ∃ ids, (store.putItem first.table first.input).1 = .ok ids ∧
    ((store.write second).putItem first.table first.input).1 = .ok ids
  secondTaken : ∃ ids, (store.putItem second.table second.input).1 = .ok ids ∧
    ((store.write first).putItem second.table second.input).1 = .ok ids
  firstAppends : (store.write second).Appends first ↔ store.Appends first
  secondAppends : (store.write first).Appends second ↔ store.Appends second
  rowsPerm : ∀ name, (((store.write first).write second).rows name).Perm
    (((store.write second).write first).rows name)
  rowsEq : ∀ name,
    ¬(first.table = name ∧ second.table = name ∧
        store.Appends first ∧ store.Appends second) →
      ((store.write first).write second).rows name =
        ((store.write second).write first).rows name

theorem commutes_of_tables_ne {firstIds secondIds : List Json}
    (firstTaken : (store.putItem first.table first.input).1 = .ok firstIds)
    (secondTaken :
      (store.putItem second.table second.input).1 = .ok secondIds)
    (different : first.table ≠ second.table) :
    store.Commutes first second where
  firstTaken := ⟨firstIds, firstTaken,
    (putItem_congr (table?_write store second _)
      (rows_write_of_ne different)).1.trans firstTaken⟩
  secondTaken := ⟨secondIds, secondTaken,
    (putItem_congr (table?_write store first _)
      (rows_write_of_ne different.symm)).1.trans secondTaken⟩
  firstAppends := appends_congr (table?_write store second _)
    (rows_write_of_ne different)
  secondAppends := appends_congr (table?_write store first _)
    (rows_write_of_ne different.symm)
  rowsPerm name := .of_eq
    (congrFun (rows_write_comm_of_tables_ne different) name)
  rowsEq name _ := congrFun (rows_write_comm_of_tables_ne different) name

theorem commutes_of_keys_differ {key otherKey : Json}
    (known : store.table? first.table = some stored)
    (sameTable : second.table = first.table)
    (firstKnown : stored.unknownColumn? first.input = none)
    (secondKnown : stored.unknownColumn? second.input = none)
    (firstSupplied : first.input.members.present? stored.primaryKey = some key)
    (secondSupplied :
      second.input.members.present? stored.primaryKey = some otherKey)
    (different : key.same otherKey = false) :
    store.Commutes first second := by
  have knownToo : store.table? second.table = some stored := by
    rw [sameTable, known]
  have differentToo : otherKey.same key = false := by
    rw [Json.same_comm, different]
  have comm := rows_write_comm_of_keys_differ known sameTable firstKnown
    secondKnown firstSupplied secondSupplied different
  have elsewhere {name : String} (here : name ≠ first.table) :
      ((store.write first).write second).rows name =
        ((store.write second).write first).rows name := by
    have hereToo : name ≠ second.table := sameTable ▸ here
    rw [rows_write_of_ne hereToo, rows_write_of_ne here, rows_write_of_ne here,
      rows_write_of_ne hereToo]
  refine ⟨⟨[], putItem_of_supplied known firstKnown firstSupplied, ?_⟩,
    ⟨[], putItem_of_supplied knownToo secondKnown secondSupplied, ?_⟩, ?_, ?_,
    ?_, ?_⟩
  · exact putItem_of_supplied ((table?_write store second _).trans known)
      firstKnown firstSupplied
  · exact putItem_of_supplied ((table?_write store first _).trans knownToo)
      secondKnown secondSupplied
  · exact appends_write_iff_of_keys_differ knownToo sameTable.symm secondKnown
      firstKnown secondSupplied firstSupplied differentToo
  · exact appends_write_iff_of_keys_differ known sameTable firstKnown
      secondKnown firstSupplied secondSupplied different
  · intro name
    by_cases here : name = first.table
    · rw [here]
      exact comm.1
    · exact .of_eq (elsewhere here)
  · intro name notBoth
    by_cases here : name = first.table
    · subst here
      refine comm.2 fun ⟨firstAppends, secondAppends⟩ => ?_
      exact notBoth ⟨rfl, sameTable, firstAppends, secondAppends⟩
    · exact elsewhere here

/-- In any store, two writes that are accepted may change places if they go to
different tables, or carry keys that are not the same. -/
theorem write_comm
    (firstTaken : ∃ ids, (store.putItem first.table first.input).1 = .ok ids)
    (secondTaken :
      ∃ ids, (store.putItem second.table second.input).1 = .ok ids)
    (apart : first.table ≠ second.table ∨
      ∃ stored key otherKey, store.table? first.table = some stored ∧
        first.input.members.present? stored.primaryKey = some key ∧
        second.input.members.present? stored.primaryKey = some otherKey ∧
        key.same otherKey = false) :
    store.Commutes first second := by
  obtain ⟨firstIds, firstTaken⟩ := firstTaken
  obtain ⟨secondIds, secondTaken⟩ := secondTaken
  by_cases sameTable : second.table = first.table
  · obtain ⟨stored, key, otherKey, known, firstSupplied, secondSupplied,
      different⟩ := apart.resolve_left (not_not.mpr sameTable.symm)
    have knownToo : store.table? second.table = some stored := by
      rw [sameTable, known]
    obtain ⟨found, foundEq, firstKnown, _⟩ :=
      exists_known_of_putItem firstTaken
    obtain rfl : found = stored := Option.some.inj (foundEq.symm.trans known)
    obtain ⟨foundToo, foundTooEq, secondKnown, _⟩ :=
      exists_known_of_putItem secondTaken
    obtain rfl : foundToo = found :=
      Option.some.inj (foundTooEq.symm.trans knownToo)
    exact commutes_of_keys_differ known sameTable firstKnown secondKnown
      firstSupplied secondSupplied different
  · exact commutes_of_tables_ne firstTaken secondTaken (Ne.symm sameTable)

/-- A number and the text of its digits are different keys: both writes add a
row. -/
theorem write_comm_numberAndText :
    let first := parcelWrite (.ofInt 7) "number"
    let second := parcelWrite (.string "7") "text"
    (parcelStore.Appends first ∧ parcelStore.Appends second) ∧
      parcelStore.Commutes first second := by
  intro first second
  exact ⟨⟨⟨_, rfl⟩, ⟨_, rfl⟩⟩,
    write_comm ⟨[], rfl⟩ ⟨[], rfl⟩
      (.inr ⟨parcelTable, .ofInt 7, .string "7", rfl, rfl, rfl, rfl⟩)⟩

end Store

end TableGateway
