import TableGateway.Proofs.Resolver.Returns
import TableGateway.Proofs.Store.Writing

/-!
# What a mutation returns

A write finds its row by the key itself, while the record is fetched again by
the literal of the key. The main statement is `Crud.returnsWritten_iff`: the
mutation returns the row that it has written if and only if the key is a text, a
truth value or a number, and no row before the written one has a value that is
taken for it. That is so for keys that are exact in a column of their kind.
-/

namespace TableGateway

universe u

theorem find?_append_cons_iff {Item : Type u} {test : Item → Bool}
    {before after : List Item} {item : Item} (fresh : item ∉ before) :
    (before ++ item :: after).find? test = some item ↔
      test item = true ∧ ∀ other ∈ before, test other = false := by
  constructor
  · intro found
    refine ⟨List.find?_some found, ?_⟩
    rw [List.find?_append] at found
    cases foundBefore : before.find? test with
    | none => simpa using List.find?_eq_none.mp foundBefore
    | some earlier =>
        rw [foundBefore, Option.some_or, Option.some.injEq] at found
        have member := List.mem_of_find?_eq_some foundBefore
        rw [found] at member
        exact absurd member fresh
  · rintro ⟨passes, others⟩
    rw [List.find?_append, List.find?_cons_of_pos passes,
      List.find?_eq_none.mpr (by simpa using others)]
    rfl

/-! ## The row that a clause leads back to -/

namespace StoredTable

variable {table : StoredTable} {input : Members} {rows : List Json}
  {literal : String}

/-- Whether the literal of the written key leads back to the written row. -/
def TellsWrittenApart (table : StoredTable) (input : Members)
    (rows : List Json) : Prop :=
  (table.writtenKey input rows).IsScalar ∧
    ∀ row ∈ rows.take (table.writtenPlace input rows), ∀ found,
      row.present? table.primaryKey = some found →
      ¬found.TakenFor (table.writtenKey input rows)

theorem isSatisfied_writtenRow_iff {input : OrderedMembers}
    (columnsKnown : table.unknownColumn? input = none)
    (written : (table.writtenKey input rows).literal? = some literal) :
    (FilterClause.equal table.primaryKey literal).isSatisfied
        (table.writtenRow input rows) = true ↔
      (table.writtenKey input rows).IsScalar := by
  have present : (table.writtenRow input rows).present? table.primaryKey =
      some (table.writtenKey input rows) :=
    present?_writtenRow columnsKnown
  rw [FilterClause.isSatisfied_equal_iff, present]
  constructor
  · rintro ⟨found, foundEq, compared⟩
    rw [Option.some.inj foundEq]
    exact Json.isScalar_of_compareLiteral? compared
  · intro scalar
    exact ⟨_, rfl, (Json.compareLiteral?_eq_iff scalar written).mpr
      (Json.takenFor_refl scalar)⟩

/-- Up to its place, the row that is written differs from all others. -/
theorem writtenRow_not_mem_before {input : OrderedMembers}
    (columnsKnown : table.unknownColumn? input = none)
    (numbered : table.HasNumber input rows)
    (scalar : (table.writtenKey input rows).IsScalar) :
    table.writtenRow input rows ∉
      rows.take (table.writtenPlace input rows) := by
  intro member
  -- The rows before the place do not hold the key, and this one does.
  have notHeld := not_holdsValue_before numbered _ member
  unfold holdsValue at notHeld
  rw [get?_writtenRow columnsKnown] at notHeld
  have held := Json.same_self scalar
  simp [held] at notHeld

theorem not_isSatisfied_iff {column : String} {key row : Json}
    (scalar : key.IsScalar) (written : key.literal? = some literal) :
    (FilterClause.equal column literal).isSatisfied row = false ↔
      ∀ found, row.present? column = some found →
        ¬found.TakenFor key := by
  rw [Bool.eq_false_iff, ne_eq, FilterClause.isSatisfied_equal_iff]
  simp only [Json.compareLiteral?_eq_iff scalar written, not_exists,
    not_and]

/-- The first row that satisfies the clause of the written key is the written
one when no row before that has a value taken for the key. -/
theorem find?_upsert_iff {input : OrderedMembers}
    (columnsKnown : table.unknownColumn? input = none)
    (numbered : table.HasNumber input rows)
    (written : (table.writtenKey input rows).literal? = some literal) :
    (table.upsert input rows).1.find?
          (FilterClause.equal table.primaryKey literal).isSatisfied =
        some (table.writtenRow input rows) ↔
      table.TellsWrittenApart input rows := by
  have satisfiedIff :
      (FilterClause.equal table.primaryKey literal).isSatisfied
          (table.writtenRow input rows) = true ↔
        (table.writtenKey input rows).IsScalar :=
    isSatisfied_writtenRow_iff columnsKnown written
  rw [upsert_rows]
  constructor
  · intro found
    have scalar := satisfiedIff.mp (List.find?_some found)
    have fresh := writtenRow_not_mem_before columnsKnown numbered scalar
    obtain ⟨_, passedOver⟩ := (find?_append_cons_iff fresh).mp found
    refine ⟨scalar, ?_⟩
    intro row member
    exact (not_isSatisfied_iff scalar written).mp (passedOver row member)
  · rintro ⟨scalar, apart⟩
    have fresh := writtenRow_not_mem_before columnsKnown numbered scalar
    refine (find?_append_cons_iff fresh).mpr
      ⟨satisfiedIff.mpr scalar, ?_⟩
    intro row member
    exact (not_isSatisfied_iff scalar written).mpr (apart row member)

theorem tellsWrittenApart_of_isExact {key : JoinKey}
    (numbered : table.HasNumber input rows)
    (keyEq : table.writtenKey input rows = key.toJson)
    (exact : key.IsExact)
    (kindsMatch : ∀ row ∈ rows,
      JoinKey.MatchesKind table.primaryKey key row) :
    table.TellsWrittenApart input rows := by
  unfold TellsWrittenApart
  rw [keyEq]
  refine ⟨key.isScalar_toJson, ?_⟩
  intro row member found present taken
  have kept := List.mem_of_mem_take member
  obtain ⟨other, rfl, sameKind⟩ := kindsMatch row kept found present
  have alike := (JoinKey.takenFor_toJson_iff sameKind).mp taken
  have same := (JoinKey.alike_iff_eq exact).mp alike
  rw [same] at present
  have holds := (JoinKey.holdsValue_iff _ _ _).mpr present
  have notHeld := not_holdsValue_before numbered row member
  rw [keyEq, holds] at notHeld
  cases notHeld

end StoredTable

/-! ## The record that comes back -/

namespace Crud

variable {store : Store} {table : String} {arguments : Arguments}
  {stored : StoredTable} {input : Members}

/-- In every session on a store, a mutation has a value, and that is the row
that it has written, as the table has it afterwards. -/
def ReturnsWritten (store : Store) (table : String) (arguments : Arguments)
    (stored : StoredTable) (input : Members) : Prop :=
  ∀ (nested : NestedResolve Store) (session : Session Store),
    session.database = store →
    ∃ record after,
      (putItem table arguments).run Store.driver nested session =
        (some (.ok record), after) ∧
      (after.database.rows table)[
          stored.writtenPlace input (store.rows table)]? = some record

theorem select_keyLookup (table column key : String) (rows : List Json) :
    (keyLookup table column key).select rows =
      rows.filter (FilterClause.equal column key).isSatisfied := by
  have selectEq : (keyLookup table column key).select rows =
      rows.filter
        ((FilterCondition.empty table).add (.equal column key)).isSatisfied :=
    rfl
  rw [selectEq, FilterCondition.isSatisfied_add_empty]

/-- The key by which a row is fetched is the one under which it is written. -/
theorem writtenKey?_upsert (stored : StoredTable) (input : Members)
    (rows : List Json) :
    writtenKey? stored.primaryKey input (stored.upsert input rows).2 =
      (stored.writtenKey input rows).literal? := by
  have suppliedEq : input.present? stored.primaryKey =
      (input.get? stored.primaryKey).filter (!·.isNull) := rfl
  unfold writtenKey? StoredTable.writtenKey
  rw [stored.upsert_reported, suppliedEq]
  cases input.get? stored.primaryKey with
  | none => rfl
  | some value => cases value <;> rfl

/-- A mutation that is not refused returns the first row that satisfies the
clause of the written key, or null. -/
theorem run_putItem {literal : String}
    (accepts : Accepts store table arguments stored input)
    (written :
      (stored.writtenKey input (store.rows table)).literal? = some literal)
    (nested : NestedResolve Store) {session : Session Store}
    (databaseEq : session.database = store) :
    ∃ after,
      (putItem table arguments).run Store.driver nested session =
        (some (.ok
            (((stored.upsert input (store.rows table)).1.find?
              (FilterClause.equal stored.primaryKey literal).isSatisfied).getD
                .null)),
          after) ∧
      after.database.rows table =
        (stored.upsert input (store.rows table)).1 := by
  subst databaseEq
  obtain ⟨between, known, rowsEq, runEq⟩ :=
    Store.run_putItem_of_accepts nested accepts
  rw [afterWriting, writtenKey?_upsert, written] at runEq
  let lookup := keyLookup table stored.primaryKey literal
  have fetched := Store.run_fetchFirst nested between table lookup
  have kept := Store.rows_run_fetchFirst nested between table lookup
  rw [Store.select_of_known known, rowsEq, select_keyLookup] at fetched
  refine ⟨((fetchFirst table lookup).run Store.driver nested between).2,
    ?_, ?_⟩
  · rw [runEq]
    refine Prod.ext ?_ rfl
    rw [← List.head?_filter]
    exact fetched
  · rw [kept, rowsEq]

theorem returnsWritten_iff_find? {literal : String}
    (accepts : Accepts store table arguments stored input)
    (written :
      (stored.writtenKey input (store.rows table)).literal? =
        some literal) :
    ReturnsWritten store table arguments stored input ↔
      (stored.upsert input (store.rows table)).1.find?
          (FilterClause.equal stored.primaryKey literal).isSatisfied =
        some (stored.writtenRow input (store.rows table)) := by
  have placed := stored.getElem?_upsert input (store.rows table)
  constructor
  · intro returns
    -- What comes back depends on the store alone, so one session will do.
    let session := Session.start store .allowAll
    let nested : NestedResolve Store := fun _ session => (none, session)
    obtain ⟨record, after, returned, recordAt⟩ :=
      returns nested session rfl
    have databaseEq : session.database = store := rfl
    obtain ⟨fetchedAfter, fetched, rowsEq⟩ :=
      run_putItem accepts written nested databaseEq
    rw [returned] at fetched
    obtain ⟨recordEq, afterEq⟩ := Prod.mk.inj fetched
    rw [afterEq, rowsEq, placed] at recordAt
    have foundEq := Except.ok.inj (Option.some.inj recordEq)
    rw [← Option.some.inj recordAt] at foundEq
    rcases Option.getD_eq_iff.mp foundEq.symm with found | ⟨_, nullEq⟩
    · exact found
    · exact absurd nullEq.symm (stored.writtenRow_ne_null input _)
  · intro foundEq nested session databaseEq
    obtain ⟨after, fetched, rowsEq⟩ :=
      run_putItem accepts written nested databaseEq
    refine ⟨_, after, fetched, ?_⟩
    rw [rowsEq, placed, foundEq, Option.getD_some]

/-- For a store and a mutation that it does not refuse: the mutation returns
the row that it has written if and only if the key is a text, a truth value or
a number, and no row before that one has a value taken for the key. That is so
for every text, every truth value and every integer below `2 ^ 53` in a column
of that kind. -/
theorem returnsWritten_iff {input : OrderedMembers}
    (accepts : Accepts store table arguments stored input)
    (numbered : stored.HasNumber input (store.rows table)) :
    (ReturnsWritten store table arguments stored input ↔
      stored.TellsWrittenApart input (store.rows table)) ∧
    (∀ key : JoinKey,
      stored.writtenKey input (store.rows table) = key.toJson →
      key.IsExact →
      (∀ row ∈ store.rows table,
        JoinKey.MatchesKind stored.primaryKey key row) →
      ReturnsWritten store table arguments stored input) := by
  obtain ⟨literal, written⟩ :=
    Json.exists_literal (stored.isNull_writtenKey input (store.rows table))
  have returnsIff :
      ReturnsWritten store table arguments stored input ↔
        stored.TellsWrittenApart input (store.rows table) :=
    (returnsWritten_iff_find? accepts written).trans
      (StoredTable.find?_upsert_iff accepts.columnsKnown numbered written)
  refine ⟨returnsIff, ?_⟩
  intro key keyEq exact kindsMatch
  exact returnsIff.mpr
    (StoredTable.tellsWrittenApart_of_isExact numbered keyEq exact kindsMatch)

/-! ## A text and a number with one literal -/

def itemTable : StoredTable :=
  ⟨⟨"item", [⟨"id", "serial", none⟩, ⟨"name", "text", none⟩], []⟩, "id"⟩

/-- A store with one row in that table, whose key is a number. -/
def itemStore : Store :=
  (Store.empty.withTable itemTable.metadata "id").setRows "item"
    [.object [("id", .ofInt 1), ("name", .string "first")]]

def textItem : OrderedMembers where
  members := [("id", .string "1"), ("name", .string "second")]
  ascending := by decide

theorem takenFor_text_of_one : (Json.ofInt 1).TakenFor (.string "1") := by
  refine ⟨Reading.ofInt 1, readDouble?_integerText 1, ?_⟩
  exact (Reading.compare?_ofInt_eq_iff 1 1).mpr rfl

/-- The row with the text as its key is added, and the row with the number comes
back. -/
theorem not_returnsWritten_textItem :
    Accepts itemStore "item" [("input", .object textItem)] itemTable
      textItem ∧
    itemTable.HasNumber textItem (itemStore.rows "item") ∧
    ¬ReturnsWritten itemStore "item" [("input", .object textItem)] itemTable
      textItem := by
  have accepts : Accepts itemStore "item" [("input", .object textItem)]
      itemTable textItem := ⟨rfl, rfl, rfl⟩
  have numbered : itemTable.HasNumber textItem (itemStore.rows "item") :=
    fun absent => nomatch absent
  refine ⟨accepts, numbered, ?_⟩
  intro returns
  obtain ⟨_, apart⟩ := (returnsWritten_iff accepts numbered).1.mp returns
  have member := List.mem_singleton_self
    (Json.object [("id", .ofInt 1), ("name", .string "first")])
  exact apart _ member (.ofInt 1) rfl takenFor_text_of_one

end Crud

end TableGateway
