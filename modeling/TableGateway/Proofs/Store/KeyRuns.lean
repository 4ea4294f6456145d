import TableGateway.Proofs.Store.Keys

/-!
# Keys over runs of writes

A run is a list of writes to any tables, refused or not. `Store.write_cases`
says all that one write does. Rows and their keys outlast every run
(`Store.continues_writeAll`). The main statement is `Store.writeAll_keepsKeys`:
keys that are distinct stay so, and the numbers given to new rows ascend and
are fresh.
-/

namespace TableGateway

/-- A row to be written to a table. -/
structure RowWrite where
  table : String
  input : OrderedMembers

namespace Store

/-! ## Runs -/

/-- A store after a write, whether or not that is refused. -/
def write (store : Store) (row : RowWrite) : Store :=
  (store.putItem row.table row.input).2

/-- The keys that a write gives to new rows. -/
def keysOf (store : Store) (row : RowWrite) : List Json :=
  match (store.putItem row.table row.input).1 with
  | .ok keys => keys
  | .error _ => []

def writeAll (store : Store) (writes : List RowWrite) : Store :=
  writes.foldl write store

/-- The keys that a run of writes gives to new rows of a table, in order. -/
def keysGiven (table : String) : Store → List RowWrite → List Json
  | _, [] => []
  | store, row :: rest =>
      (if row.table = table then store.keysOf row else []) ++
        keysGiven table (store.write row) rest

/-- In every table of a store, no two rows hold the same key. -/
def KeysDistinct (store : Store) : Prop :=
  ∀ name stored, store.table? name = some stored →
    stored.KeysDistinct (store.rows name)

/-- A later state of a store: every row is still at its place, under the key
that it had. -/
structure Continues (store later : Store) : Prop where
  tables : later.tables = store.tables
  known : ∀ name stored, store.table? name = some stored →
    stored.KeepsRows (store.rows name) (later.rows name)
  unknown : ∀ name, store.table? name = none →
    later.rows name = store.rows name

variable {store : Store} {row : RowWrite}

theorem table?_eq_of_tables {later : Store}
    (same : later.tables = store.tables) (name : String) :
    later.table? name = store.table? name := by
  simp [table?, same]

/-! ## One write -/

/-- A write is refused and changes no rows, or it is an upsert of the rows of
its table. -/
theorem write_cases (store : Store) (row : RowWrite) :
    (store.write row).tables = store.tables ∧
      ((store.keysOf row = [] ∧
          ∀ name, (store.write row).rows name = store.rows name) ∨
        ∃ stored, store.table? row.table = some stored ∧
          stored.unknownColumn? row.input = none ∧
          store.keysOf row =
            (stored.upsert row.input (store.rows row.table)).2 ∧
          (store.write row).rows row.table =
            (stored.upsert row.input (store.rows row.table)).1 ∧
          ∀ name, name ≠ row.table →
            (store.write row).rows name = store.rows name) := by
  cases known : store.table? row.table with
  | none =>
      have refused : store.putItem row.table row.input =
          (.error (.unknownTable row.table),
            store.record .putItem row.table none) :=
        putItem_of_unknown_table known
      refine ⟨by rw [write, refused]; rfl, .inl ⟨?_, ?_⟩⟩
      · rw [keysOf, refused]
      · intro name
        rw [write, refused]
        rfl
  | some stored =>
      cases unknown : stored.unknownColumn? row.input with
      | some column =>
          have refused := putItem_of_unknown_column known unknown
          refine ⟨by rw [write, refused]; rfl, .inl ⟨?_, ?_⟩⟩
          · rw [keysOf, refused]
          · intro name
            rw [write, refused]
            rfl
      | none =>
          have written := putItem_of_known known unknown
          refine ⟨by rw [write, written]; rfl,
            .inr ⟨stored, rfl, unknown, ?_, ?_, ?_⟩⟩
          · rw [keysOf, written]
          · rw [write, written]
            exact rows_setRows _ _ _
          · intro name different
            rw [write, written]
            exact rows_setRows_of_ne _ different _

theorem Continues.refl (store : Store) : store.Continues store where
  tables := rfl
  known _ stored _ := stored.keepsRows_refl _
  unknown _ _ := rfl

theorem Continues.trans {first second third : Store}
    (here : first.Continues second) (there : second.Continues third) :
    first.Continues third where
  tables := there.tables.trans here.tables
  known name stored known := by
    have knownThere : second.table? name = some stored := by
      rw [table?_eq_of_tables here.tables, known]
    exact (here.known name stored known).trans
      (there.known name stored knownThere)
  unknown name unknown := by
    have unknownThere : second.table? name = none := by
      rw [table?_eq_of_tables here.tables, unknown]
    rw [there.unknown name unknownThere, here.unknown name unknown]

theorem continues_write (store : Store) (row : RowWrite) :
    store.Continues (store.write row) := by
  obtain ⟨tablesEq, effect⟩ := store.write_cases row
  refine ⟨tablesEq, ?_, ?_⟩
  · intro name stored known
    rcases effect with ⟨_, rowsEq⟩ |
      ⟨found, foundKnown, columnsKnown, _, rowsEq, othersEq⟩
    · rw [rowsEq]
      exact stored.keepsRows_refl _
    · by_cases here : name = row.table
      · subst here
        rw [foundKnown, Option.some.injEq] at known
        subst known
        rw [rowsEq]
        exact StoredTable.keepsRows_upsert columnsKnown
      · rw [othersEq name here]
        exact stored.keepsRows_refl _
  · intro name unknown
    rcases effect with ⟨_, rowsEq⟩ | ⟨found, foundKnown, _, _, _, othersEq⟩
    · exact rowsEq name
    · apply othersEq
      rintro rfl
      rw [foundKnown] at unknown
      cases unknown

/-- What a write gives to a new row is the next number of its table. -/
theorem keysOf_cases (store : Store) (row : RowWrite) :
    store.keysOf row = [] ∨
      ∃ stored, store.table? row.table = some stored ∧
        store.keysOf row =
          [.ofInt (stored.nextKey (store.rows row.table))] := by
  rcases (store.write_cases row).2 with ⟨noKeys, _⟩ |
    ⟨stored, known, _, keysEq, _, _⟩
  · exact .inl noKeys
  · rw [keysEq, stored.upsert_reported]
    cases row.input.members.present? stored.primaryKey with
    | some key => exact .inl rfl
    | none => exact .inr ⟨stored, known, rfl⟩

/-- The numbers that a run gives to new rows have 64 bits. -/
def InRange (store : Store) (writes : List RowWrite) : Prop :=
  ∀ table number, .ofInt number ∈ store.keysGiven table writes →
    number ≤ 9223372036854775807

theorem InRange.head {rest : List RowWrite}
    (inRange : store.InRange (row :: rest)) {number : Int}
    (given : .ofInt number ∈ store.keysOf row) :
    number ≤ 9223372036854775807 := by
  apply inRange row.table number
  simp [keysGiven, given]

theorem InRange.tail {rest : List RowWrite}
    (inRange : store.InRange (row :: rest)) :
    (store.write row).InRange rest := by
  intro table number given
  apply inRange table number
  simp [keysGiven, given]

theorem keysDistinct_write (distinct : store.KeysDistinct)
    (inRange : ∀ number, .ofInt number ∈ store.keysOf row →
      number ≤ 9223372036854775807) :
    (store.write row).KeysDistinct := by
  obtain ⟨tablesEq, effect⟩ := store.write_cases row
  intro name stored known
  rw [table?_eq_of_tables tablesEq] at known
  have before := distinct name stored known
  rcases effect with ⟨_, rowsEq⟩ |
    ⟨found, foundKnown, columnsKnown, keysEq, rowsEq, othersEq⟩
  · rw [rowsEq]
    exact before
  · by_cases here : name = row.table
    · subst here
      rw [foundKnown, Option.some.injEq] at known
      subst known
      have numbered : found.HasNumber row.input (store.rows row.table) := by
        intro absent
        apply inRange
        simp [keysEq, found.upsert_reported, absent]
      rw [rowsEq]
      exact StoredTable.keysDistinct_upsert columnsKnown numbered before
    · rw [othersEq name here]
      exact before

/-! ## Numbers given to new rows -/

/-- A number stands as a key in a table. -/
def HoldsNumber (store : Store) (name : String) (stored : StoredTable)
    (number : Int) : Prop :=
  ∃ row ∈ store.rows name,
    row.present? stored.primaryKey = some (.ofInt number)

theorem HoldsNumber.write {name : String} {stored : StoredTable}
    {number : Int} (known : store.table? name = some stored)
    (held : store.HoldsNumber name stored number) (row : RowWrite) :
    (store.write row).HoldsNumber name stored number := by
  obtain ⟨old, member, present⟩ := held
  obtain ⟨place, bound, oldEq⟩ := List.getElem_of_mem member
  have found : (store.rows name)[place]? = some old := by
    rw [List.getElem?_eq_getElem bound, oldEq]
  obtain ⟨later, laterFound, continues⟩ :=
    (store.continues_write row).known name stored known place old found
  have laterMember := List.mem_of_getElem? laterFound
  rcases continues with rfl | ⟨key, laterKey, keyPresent, laterPresent, agree⟩
  · exact ⟨later, laterMember, present⟩
  · rw [present, Option.some.injEq] at keyPresent
    subst keyPresent
    have laterKeyEq : laterKey = .ofInt number :=
      (JoinKey.same_toJson_iff laterKey (.integer number)).mp
        (Json.same_symm agree)
    rw [laterKeyEq] at laterPresent
    exact ⟨later, laterMember, laterPresent⟩

/-- The number given to a new row is its key. -/
theorem holdsNumber_of_keysOf {stored : StoredTable} {number : Int}
    (known : store.table? row.table = some stored)
    (given : .ofInt number ∈ store.keysOf row) :
    (store.write row).HoldsNumber row.table stored number := by
  rcases (store.write_cases row).2 with ⟨noKeys, _⟩ |
    ⟨found, foundKnown, columnsKnown, keysEq, rowsEq, _⟩
  · simp [noKeys] at given
  · rw [foundKnown, Option.some.injEq] at known
    subst known
    rw [keysEq, found.upsert_reported] at given
    cases supplied : row.input.members.present? found.primaryKey with
    | some key => simp [supplied] at given
    | none =>
        simp only [supplied, List.mem_singleton] at given
        have placed := found.getElem?_upsert row.input (store.rows row.table)
        refine ⟨_, rowsEq ▸ List.mem_of_getElem? placed, ?_⟩
        rw [StoredTable.present?_writtenRow columnsKnown, given]
        simp [StoredTable.writtenKey, supplied]

theorem lt_of_mem_keysOf {name : String} {stored : StoredTable}
    {held number : Int} (known : store.table? name = some stored)
    (holds : store.HoldsNumber name stored held)
    (isWord : (Json.ofInt held).signedWord? = some held)
    (here : row.table = name)
    (given : .ofInt number ∈ store.keysOf row) : held < number := by
  subst here
  obtain ⟨old, member, present⟩ := holds
  rcases store.keysOf_cases row with noKeys | ⟨found, foundKnown, keysEq⟩
  · simp [noKeys] at given
  · rw [foundKnown, Option.some.injEq] at known
    subst known
    rw [keysEq, List.mem_singleton] at given
    have numberEq : number = found.nextKey (store.rows row.table) := by
      simpa [Json.ofInt] using given
    have numbered : (old.get? found.primaryKey).bind (·.signedWord?) =
        some held := by
      unfold Json.present? at present
      rw [(Option.filter_eq_some_iff.mp present).1]
      exact isWord
    rw [numberEq]
    exact StoredTable.lt_nextKey member numbered

theorem lt_of_mem_keysGiven {name : String} {stored : StoredTable}
    {held number : Int} {writes : List RowWrite}
    (known : store.table? name = some stored)
    (holds : store.HoldsNumber name stored held)
    (isWord : (Json.ofInt held).signedWord? = some held)
    (given : .ofInt number ∈ store.keysGiven name writes) :
    held < number := by
  induction writes generalizing store with
  | nil => simp [keysGiven] at given
  | cons row rest inductionHypothesis =>
      rw [keysGiven, List.mem_append] at given
      rcases given with now | afterwards
      · by_cases here : row.table = name
        · rw [if_pos here] at now
          exact lt_of_mem_keysOf known holds isWord here now
        · simp [here] at now
      · have knownAfter : (store.write row).table? name = some stored := by
          rw [table?_eq_of_tables (store.continues_write row).tables, known]
        exact inductionHypothesis knownAfter (holds.write known row)
          afterwards

theorem keysGiven_of_unknown {name : String} {writes : List RowWrite}
    (unknown : store.table? name = none) :
    store.keysGiven name writes = [] := by
  induction writes generalizing store with
  | nil => rfl
  | cons row rest inductionHypothesis =>
      have unknownAfter : (store.write row).table? name = none := by
        rw [table?_eq_of_tables (store.continues_write row).tables, unknown]
      rw [keysGiven, inductionHypothesis unknownAfter, List.append_nil]
      by_cases here : row.table = name
      · subst here
        rcases store.keysOf_cases row with noKeys | ⟨stored, known, _⟩
        · rw [if_pos rfl, noKeys]
        · rw [known] at unknown
          cases unknown
      · rw [if_neg here]

/-- The numbers given to the rows of one table ascend strictly. -/
theorem keysGiven_ascend (table : String) {writes : List RowWrite}
    (inRange : store.InRange writes) :
    ∃ numbers : List Int,
      store.keysGiven table writes = numbers.map .ofInt ∧
        numbers.Pairwise (· < ·) := by
  induction writes generalizing store with
  | nil => exact ⟨[], rfl, List.Pairwise.nil⟩
  | cons row rest inductionHypothesis =>
      obtain ⟨later, laterEq, laterAscend⟩ := inductionHypothesis inRange.tail
      by_cases here : row.table = table
      · rcases store.keysOf_cases row with noKeys | ⟨stored, known, keysEq⟩
        · exact ⟨later, by simp [keysGiven, noKeys, laterEq], laterAscend⟩
        · let number := stored.nextKey (store.rows row.table)
          have given : .ofInt number ∈ store.keysOf row := by
            rw [keysEq]
            exact List.mem_singleton_self _
          have isWord : (Json.ofInt number).signedWord? = some number :=
            if_pos ⟨stored.le_nextKey _, inRange.head given⟩
          have knownAfter :
              (store.write row).table? row.table = some stored := by
            rw [table?_eq_of_tables (store.continues_write row).tables, known]
          refine ⟨number :: later, ?_, List.pairwise_cons.mpr ⟨?_, laterAscend⟩⟩
          · simp [keysGiven, here, keysEq, laterEq, number]
          · intro other member
            apply lt_of_mem_keysGiven knownAfter
              (holdsNumber_of_keysOf known given) isWord
            rw [here, laterEq]
            exact List.mem_map_of_mem member
      · exact ⟨later, by simp [keysGiven, here, laterEq], laterAscend⟩

/-! ## Whole runs -/

theorem continues_writeAll (store : Store) (writes : List RowWrite) :
    store.Continues (store.writeAll writes) := by
  induction writes generalizing store with
  | nil => exact .refl store
  | cons row rest inductionHypothesis =>
      exact (store.continues_write row).trans
        (inductionHypothesis (store.write row))

theorem InRange.writeAll {earlier rest : List RowWrite}
    (inRange : store.InRange (earlier ++ rest)) :
    (store.writeAll earlier).InRange rest := by
  induction earlier generalizing store with
  | nil => exact inRange
  | cons row others inductionHypothesis =>
      exact inductionHypothesis inRange.tail

theorem keysDistinct_writeAll {writes : List RowWrite}
    (distinct : store.KeysDistinct) (inRange : store.InRange writes) :
    (store.writeAll writes).KeysDistinct := by
  induction writes generalizing store with
  | nil => exact distinct
  | cons row rest inductionHypothesis =>
      have afterFirst := keysDistinct_write distinct fun _ => inRange.head
      exact inductionHypothesis afterFirst inRange.tail

/-- No row holds the number that is given to a new one. -/
theorem not_holdsValue_of_mem_keysOf {stored : StoredTable} {key old : Json}
    (known : store.table? row.table = some stored)
    (inRange : ∀ number, .ofInt number ∈ store.keysOf row →
      number ≤ 9223372036854775807)
    (given : key ∈ store.keysOf row)
    (member : old ∈ store.rows row.table) :
    holdsValue stored.primaryKey key old = false := by
  rcases store.keysOf_cases row with noKeys | ⟨found, foundKnown, keysEq⟩
  · simp [noKeys] at given
  · rw [foundKnown, Option.some.injEq] at known
    subst known
    rw [keysEq] at inRange given
    rw [List.mem_singleton.mp given]
    exact StoredTable.not_holdsValue_nextKey
      (inRange _ (List.mem_singleton_self _)) old member

/-- For a store in which no two rows of a table hold the same key, and a run
of writes, refused or not, whose automatic numbers have 64 bits: still no two
rows of a table hold the same key, every row is at its place under the key that
it had, and the numbers given to the rows of one table ascend strictly and are
held by no row of the table at the time. -/
theorem writeAll_keepsKeys (store : Store) (writes : List RowWrite)
    (distinct : store.KeysDistinct) (inRange : store.InRange writes) :
    (store.writeAll writes).KeysDistinct ∧
    store.Continues (store.writeAll writes) ∧
    (∀ table, ∃ numbers : List Int,
      store.keysGiven table writes = numbers.map .ofInt ∧
        numbers.Pairwise (· < ·)) ∧
    ∀ earlier row later, writes = earlier ++ row :: later →
      ∀ stored, store.table? row.table = some stored →
      ∀ key ∈ (store.writeAll earlier).keysOf row,
      ∀ old ∈ (store.writeAll earlier).rows row.table,
        holdsValue stored.primaryKey key old = false := by
  refine ⟨keysDistinct_writeAll distinct inRange,
    store.continues_writeAll writes, fun table => keysGiven_ascend table inRange,
    ?_⟩
  rintro earlier row later rfl stored known key given old member
  have knownThen : (store.writeAll earlier).table? row.table = some stored := by
    rw [table?_eq_of_tables (store.continues_writeAll earlier).tables, known]
  have inRangeThen := inRange.writeAll
  exact not_holdsValue_of_mem_keysOf knownThen
    (fun _ => inRangeThen.head) given member

/-! ## A table with keys of several kinds -/

def parcelTable : StoredTable :=
  ⟨⟨"parcel", [⟨"id", "serial", none⟩, ⟨"name", "text", none⟩], []⟩, "id"⟩

/-- A store with rows under a number, a text, a zero with a sign and no key. -/
def parcelStore : Store :=
  (Store.empty.withTable parcelTable.metadata "id").setRows "parcel"
    [.object [("id", .ofInt 1)],
      .object [("id", .string "1")],
      .object [("id", .number (.double (.zero true)))],
      .object [("name", .string "loose")]]

/-- A row without a key, one over another, two that are refused, a new one
under a key, and again one without a key. -/
def parcelWrites : List RowWrite :=
  [⟨"parcel", ⟨[("name", .string "new")], by decide⟩⟩,
    ⟨"parcel", ⟨[("id", .number (.double (.zero false)))], by decide⟩⟩,
    ⟨"parcel", ⟨[("weight", .ofInt 1)], by decide⟩⟩,
    ⟨"ghost", ⟨[], by decide⟩⟩,
    ⟨"parcel", ⟨[("id", .ofInt 7)], by decide⟩⟩,
    ⟨"parcel", ⟨[("id", .null)], by decide⟩⟩]

theorem keysGiven_parcelWrites :
    parcelStore.keysGiven "parcel" parcelWrites = [.ofInt 2, .ofInt 8] :=
  rfl

theorem keysDistinct_parcelStore : parcelStore.KeysDistinct := by
  intro name stored known
  have isParcel := List.mem_of_find?_eq_some known
  have named := List.find?_some known
  have tablesEq : parcelStore.tables = [parcelTable] := rfl
  rw [tablesEq, List.mem_singleton] at isParcel
  subst isParcel
  obtain rfl : "parcel" = name := eq_of_beq named
  have rowsEq : parcelStore.rows "parcel" =
      [.object [("id", .ofInt 1)],
        .object [("id", .string "1")],
        .object [("id", .number (.double (.zero true)))],
        .object [("name", .string "loose")]] := rfl
  rw [rowsEq]
  simp [StoredTable.KeysDistinct, StoredTable.Apart, parcelTable,
    Json.present?, Json.get?, OrderedMap.findEntry, Json.isNull, Json.same,
    Json.ofInt, Number.same]

theorem inRange_parcelWrites : parcelStore.InRange parcelWrites := by
  intro table number given
  by_cases here : table = "parcel"
  · subst here
    rw [keysGiven_parcelWrites] at given
    have isGiven : number = 2 ∨ number = 8 := by
      simpa [Json.ofInt] using given
    omega
  · have unknown : parcelStore.table? table = none := by
      refine List.find?_eq_none.mpr ?_
      intro stored member named
      have isParcel : stored = parcelTable := List.mem_singleton.mp member
      subst isParcel
      exact here (eq_of_beq named).symm
    rw [keysGiven_of_unknown unknown] at given
    cases given

theorem writeAll_keepsKeys_parcelWrites :
    parcelStore.KeysDistinct ∧ parcelStore.InRange parcelWrites ∧
      (parcelStore.writeAll parcelWrites).KeysDistinct ∧
      parcelStore.Continues (parcelStore.writeAll parcelWrites) := by
  have kept := writeAll_keepsKeys parcelStore parcelWrites
    keysDistinct_parcelStore inRange_parcelWrites
  exact ⟨keysDistinct_parcelStore, inRange_parcelWrites, kept.1, kept.2.1⟩

end Store

end TableGateway
