import TableGateway.Proofs.Resolver.Written
import TableGateway.Proofs.Store.OneRow

/-!
# What a mutation does to a store

A mutation is refused for one of three reasons (`Crud.Refuses`), and then no row
of any table changes; there is no other way for it to fail. Otherwise one row of
its table changes, and that is all that changes in the store. The main statement
is `Crud.changes_one_row_or_nothing`.
-/

namespace TableGateway

theorem Store.table?_eq_none_iff {store : Store} {name : String} :
    store.table? name = none ↔ name ∉ store.catalog.tables := by
  unfold table? catalog
  rw [List.find?_eq_none]
  simp

namespace Crud

variable {store : Store} {session : Session Store} {table : String}
  {arguments : Arguments} {stored : StoredTable} {input : Members}
  {fault : ResolverError}

/-! ## Refusals -/

/-- Why a mutation is refused: there is no object to write, or else the table is
unknown, or else a key of the object is no column, of which the first is named. -/
inductive Refuses (store : Store) (table : String) (arguments : Arguments) :
    ResolverError → Prop
  | noObject
      (absent : (arguments.get? "input").bind (·.asObject?) = none) :
      Refuses store table arguments
        (.invalidArgument
          (Naming.putItemField table ++ " requires an input object"))
  | unknownTable {input : Members}
      (given : (arguments.get? "input").bind (·.asObject?) = some input)
      (unknown : table ∉ store.catalog.tables) :
      Refuses store table arguments (.driver (.unknownTable table))
  | unknownColumn {input : Members} {stored : StoredTable} {column : String}
      (given : (arguments.get? "input").bind (·.asObject?) = some input)
      (known : store.table? table = some stored)
      (first : stored.IsFirstUnknown input column) :
      Refuses store table arguments (.driver (.unknownColumn table column))

/-- Arguments in which the object to write, if there is one, has its keys in
order. -/
structure MutationArguments where
  arguments : Arguments
  ascending : ∀ input,
    (arguments.get? "input").bind (·.asObject?) = some input →
      input.Ascending

instance : CoeOut MutationArguments Arguments := ⟨MutationArguments.arguments⟩

/-- The object to write, with its order. -/
def MutationArguments.ordered (arguments : MutationArguments) {input : Members}
    (given : (arguments.arguments.get? "input").bind (·.asObject?) =
      some input) :
    OrderedMembers :=
  ⟨input, arguments.ascending input given⟩

theorem accepts_or_refuses (store : Store) (table : String)
    (arguments : MutationArguments) :
    (∃ stored input, Accepts store table arguments stored input) ∨
      ∃ fault, Refuses store table arguments fault := by
  cases given : (arguments.arguments.get? "input").bind (·.asObject?) with
  | none => exact .inr ⟨_, .noObject given⟩
  | some input =>
      cases known : store.table? table with
      | none =>
          exact .inr ⟨_, .unknownTable given (Store.table?_eq_none_iff.mp known)⟩
      | some stored =>
          cases unknown : stored.unknownColumn? input with
          | none => exact .inl ⟨stored, input, known, given, unknown⟩
          | some column =>
              have first := (StoredTable.unknownColumn?_eq_some_iff
                (arguments.ordered given)).mp unknown
              exact .inr ⟨_, .unknownColumn given known first⟩

/-- A mutation that is refused fails with the reason and changes no row. -/
theorem run_putItem_of_refuses (nested : NestedResolve Store)
    {arguments : MutationArguments}
    (refuses : Refuses session.database table arguments fault) :
    ∃ after : Session Store,
      (putItem table arguments).run Store.driver nested session =
        (some (.error fault), after) ∧
      after.database.rows = session.database.rows := by
  cases refuses with
  | noObject absent =>
      exact ⟨session,
        Store.run_putItem_of_no_object nested session table absent, rfl⟩
  | unknownTable given unknown =>
      exact Store.run_putItem_of_unknown_table nested given
        (Store.table?_eq_none_iff.mpr unknown)
  | unknownColumn given known first =>
      exact Store.run_putItem_of_unknown_column nested given known
        ((StoredTable.unknownColumn?_eq_some_iff
          (arguments.ordered given)).mpr first)

/-! ## Writes -/

/-- A mutation that is not refused comes to a value, and leaves the rows that the
store leaves when it writes the row. -/
theorem run_putItem_of_accepts (nested : NestedResolve Store)
    (accepts : Accepts session.database table arguments stored input) :
    ∃ value, ∃ after : Session Store,
      (putItem table arguments).run Store.driver nested session =
        (some (.ok value), after) ∧
      after.database.rows =
        (session.database.putItem table input).2.rows := by
  obtain ⟨written, databaseEq, runEq⟩ :=
    Store.exists_written_of_accepts nested accepts
  have known : written.database.table? table = some stored := by
    rw [databaseEq, Store.putItem_of_known accepts.known accepts.columnsKnown]
    exact accepts.known
  obtain ⟨literal, isLiteral⟩ := Json.exists_literal
    (stored.isNull_writtenKey input (session.database.rows table))
  -- The id that is not supplied is reported, so that there always is one.
  rw [afterWriting, writtenKey?_upsert, isLiteral] at runEq
  let lookup := keyLookup table stored.primaryKey literal
  have fetched := Store.run_fetchFirst nested written table lookup
  rw [Store.select_of_known known] at fetched
  refine ⟨_, ((fetchFirst table lookup).run Store.driver nested written).2,
    runEq.trans (Prod.ext fetched rfl), ?_⟩
  rw [Store.rows_run_fetchFirst, databaseEq]

/-- In every session on a store, a mutation comes to an outcome. It is an error
exactly for the three reasons to refuse the mutation, in their order, and then the
rows of every table are as before. Otherwise the rows of all other tables are as
before, and in its own table one row has changed: the first row that holds the id
of the input is written over at the keys of the input, or else a row is added
behind all others, under the id of the input or under the one that is given to
it. -/
theorem changes_one_row_or_nothing (nested : NestedResolve Store)
    (session : Session Store) (table : String)
    (arguments : MutationArguments)
    (room : ∀ stored, session.database.table? table = some stored →
      stored.HasRoom (session.database.rows table)) :
    ∃ outcome, ∃ after : Session Store,
      (putItem table arguments).run Store.driver nested session =
        (some outcome, after) ∧
      (∀ fault, outcome = .error fault ↔
        Refuses session.database table arguments fault) ∧
      (∀ fault, outcome = .error fault →
        after.database.rows = session.database.rows) ∧
      ∀ value, outcome = .ok value →
        ∃ stored input ids,
          Accepts session.database table arguments stored input ∧
          (session.database.putItem table input).1 = .ok ids ∧
          (∀ other, other ≠ table →
            after.database.rows other = session.database.rows other) ∧
          stored.ChangesOneRow input (session.database.rows table)
            (after.database.rows table) ids := by
  rcases accepts_or_refuses session.database table arguments with
    ⟨stored, input, accepts⟩ | ⟨fault, refuses⟩
  · obtain ⟨value, after, runEq, rowsEq⟩ :=
      run_putItem_of_accepts nested accepts
    rw [Store.putItem_of_known accepts.known accepts.columnsKnown] at rowsEq
    refine ⟨.ok value, after, runEq, ?_, nofun, ?_⟩
    · intro fault
      refine iff_of_false nofun fun refuses => ?_
      obtain ⟨_, refused, _⟩ := run_putItem_of_refuses nested refuses
      rw [runEq] at refused
      nomatch refused
    · intro _ _
      refine ⟨stored, input, _, accepts, congrArg Prod.fst
        (Store.putItem_of_known accepts.known accepts.columnsKnown), ?_, ?_⟩
      · intro other different
        rw [rowsEq]
        exact Store.rows_setRows_of_ne _ different _
      · have changed := StoredTable.changesOneRow_upsert
          (arguments.ordered accepts.given) (room stored accepts.known)
        rw [rowsEq, Store.rows_setRows]
        exact changed
  · obtain ⟨after, runEq, rowsEq⟩ :=
      run_putItem_of_refuses nested refuses
    refine ⟨.error fault, after, runEq, ?_, fun _ _ => rowsEq, nofun⟩
    intro other
    constructor
    · intro same
      cases same
      exact refuses
    · intro otherRefuses
      obtain ⟨_, refused, _⟩ := run_putItem_of_refuses nested otherRefuses
      rw [runEq] at refused
      exact Option.some.inj (Prod.mk.inj refused).1

/-- An item without an id is added under the next one. -/
theorem changes_one_row_or_nothing_nextItem :
    let input : OrderedMembers := ⟨[("name", .string "next")], by decide⟩
    let session := Session.start itemStore .allowAll
    let nested : NestedResolve Store := fun _ session => (none, session)
    itemTable.HasRoom (itemStore.rows "item") ∧
    ∃ value after,
      (putItem "item" [("input", .object input)]).run Store.driver nested
        session = (some (.ok value), after) ∧
      itemTable.ChangesOneRow input (itemStore.rows "item")
        (after.database.rows "item") [.ofInt 2] := by
  intro input session nested
  let arguments : MutationArguments :=
    ⟨[("input", .object input)],
      fun _ found => Option.some.inj found ▸ input.ascending⟩
  have room : itemTable.HasRoom (itemStore.rows "item") := by
    intro row member id held
    obtain rfl := List.mem_singleton.mp member
    obtain rfl : 1 = id := Option.some.inj held
    decide
  refine ⟨room, ?_⟩
  obtain ⟨outcome, after, runEq, failsIff, _, changes⟩ :=
    changes_one_row_or_nothing nested session "item" arguments
      fun stored known => Option.some.inj known ▸ room
  cases outcome with
  | error fault =>
      nomatch runEq
  | ok value =>
      obtain ⟨stored, given, ids, accepts, reported, _, changed⟩ :=
        changes value rfl
      obtain rfl : itemTable = stored := Option.some.inj accepts.known
      obtain rfl : input.members = given := Option.some.inj accepts.given
      obtain rfl : [Json.ofInt 2] = ids := Except.ok.inj reported
      exact ⟨value, after, runEq, changed⟩

end Crud

end TableGateway
