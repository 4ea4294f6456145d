import TableGateway.Proofs.Resolver.Joins
import TableGateway.Proofs.Store.Writing

/-!
# What generated resolvers return

Over a store, the programs behind generated resolvers return a page of rows of
their table, or one of its rows, or null; for a mutation these are the rows
after it. A mutation comes to a value only if the store does not refuse it
(`Store.exists_accepts_of_run_putItem`), and then writes before it fetches
(`Store.run_putItem_of_accepts`).
-/

namespace TableGateway

/-! ## Values that show rows -/

namespace Store

/-- A page of rows of a table. -/
def ShowsPage (store : Store) (table : String) (value : Json) : Prop :=
  ∃ total items, value = Crud.pageValue table total items ∧
    ∀ item ∈ items, item ∈ store.rows table

/-- A row of a table, or null. -/
def ShowsRecord (store : Store) (table : String) (value : Json) : Prop :=
  value = .null ∨ value ∈ store.rows table

def Shows (store : Store) (table : String) (paged : Bool) (value : Json) :
    Prop :=
  if paged then store.ShowsPage table value
  else store.ShowsRecord table value

end Store

/-! ## Reading -/

namespace Store

variable {nested : NestedResolve Store} {session after : Session Store}
  {table : String} {parsed : ParsedArguments} {value : Json}

theorem rows_run_fetchFirst (nested : NestedResolve Store)
    (session : Session Store) (table : String) (parsed : ParsedArguments) :
    ((Crud.fetchFirst table parsed).run driver nested
        session).2.database.rows =
      session.database.rows := by
  have kept := clearCalls_run_fetchFirst nested session table parsed
  exact (congrArg rows kept :)

theorem rows_run_fetchPage (nested : NestedResolve Store)
    (session : Session Store) (limit : Option Nat) (table : String)
    (parsed : ParsedArguments) :
    ((Crud.fetchPage limit table parsed).run driver nested
        session).2.database.rows =
      session.database.rows := by
  have kept := clearCalls_run_fetchPage nested session limit table parsed
  exact (congrArg rows kept :)

theorem showsRecord_of_run_fetchFirst
    (returned :
      (Crud.fetchFirst table parsed).run driver nested session =
        (some (.ok value), after)) :
    after.database.ShowsRecord table value := by
  have rowsEq := rows_run_fetchFirst nested session table parsed
  have fetched := congrArg Prod.fst returned
  obtain ⟨_, valueEq⟩ := of_run_fetchFirst fetched
  rw [returned] at rowsEq
  unfold ShowsRecord
  rw [rowsEq]
  cases selected : parsed.select (session.database.rows table) with
  | nil =>
      rw [selected] at valueEq
      exact Or.inl valueEq
  | cons first rest =>
      rw [selected] at valueEq
      apply Or.inr
      apply ParsedArguments.mem_of_mem_select
      rw [selected, valueEq]
      exact List.mem_cons_self

theorem showsPage_of_run_fetchPage {limit : Option Nat}
    (returned :
      (Crud.fetchPage limit table parsed).run driver nested session =
        (some (.ok value), after)) :
    after.database.ShowsPage table value := by
  have rowsEq := rows_run_fetchPage nested session limit table parsed
  have fetched := congrArg Prod.fst returned
  obtain ⟨_, total, pageEq⟩ := of_run_fetchPage fetched
  rw [returned] at rowsEq
  refine ⟨total, _, pageEq, ?_⟩
  rw [rowsEq]
  intro item member
  exact ParsedArguments.mem_of_mem_select
    ((ParsedArguments.stretch_sublist _ _).subset member)

end Store

namespace Relation

variable {relation : Relation} {invocation : Invocation}
  {nested : NestedResolve Store} {session after : Session Store}
  {value : Json}

theorem showsRecord_of_run_followOne
    (returned :
      (relation.followOne invocation).run Store.driver nested session =
        (some (.ok value), after)) :
    after.database.ShowsRecord relation.table value := by
  cases found : relation.key? invocation.call.parent with
  | none =>
      unfold followOne at returned
      rw [found] at returned
      cases returned
      exact Or.inl rfl
  | some text =>
      rw [relation.followOne_of_key found] at returned
      obtain ⟨parsed, fetched⟩ := Program.exists_parsed_of_value returned
      exact Store.showsRecord_of_run_fetchFirst fetched

theorem showsPage_of_run_followPage
    (returned :
      (relation.followPage invocation).run Store.driver nested session =
        (some (.ok value), after)) :
    after.database.ShowsPage relation.table value := by
  cases found : relation.key? invocation.call.parent with
  | none =>
      unfold followPage at returned
      rw [found] at returned
      cases returned
      exact ⟨0, [], rfl, fun _ member => nomatch member⟩
  | some text =>
      rw [relation.followPage_of_key found] at returned
      obtain ⟨parsed, fetched⟩ := Program.exists_parsed_of_value returned
      exact Store.showsPage_of_run_fetchPage fetched

end Relation

/-! ## Writing -/

namespace Crud

/-- A mutation that a store does not refuse: its table is known, its input is
an object, and that has no other members than columns. -/
structure Accepts (store : Store) (table : String) (arguments : Arguments)
    (stored : StoredTable) (input : Members) : Prop where
  known : store.table? table = some stored
  given : (arguments.get? "input").bind (·.asObject?) = some input
  columnsKnown : stored.unknownColumn? input = none

def afterWriting (table column : String) (input : Members)
    (reported : List Json) : Program Outcome :=
  match writtenKey? column input reported with
  | none =>
      .fail (.driver (.internal
        ("no id reported for new record in '" ++ table ++ "'")))
  | some key => fetchFirst table (keyLookup table column key)

end Crud

namespace Store

variable {nested : NestedResolve Store} {session after : Session Store}
  {table : String} {arguments : Arguments} {stored : StoredTable}
  {input : Members} {value : Json}

theorem ask_primaryKey (known : session.database.table? table = some stored) :
    (session.ask driver (.primaryKey table)).1 = .ok stored.primaryKey := by
  have answerEq : (session.ask driver (.primaryKey table)).1 =
      (session.database.knownTable table).map (·.primaryKey) := rfl
  rw [answerEq, knownTable_of_known known]
  rfl

/-- A mutation that is not refused asks the store to write the row and goes on
from there. -/
theorem exists_written_of_accepts (nested : NestedResolve Store)
    (accepts : Crud.Accepts session.database table arguments stored input) :
    ∃ written : Session Store,
      written.database = (session.database.putItem table input).2 ∧
      (Crud.putItem table arguments).run driver nested session =
        (Crud.afterWriting table stored.primaryKey input
            (stored.upsert input (session.database.rows table)).2).run
          driver nested written := by
  have writtenEq := putItem_of_known accepts.known accepts.columnsKnown
  let asked := (session.ask driver (.primaryKey table)).2
  have answerEq : (asked.ask driver (.putItem table input)).1 =
      (session.database.putItem table input).1 := rfl
  rw [writtenEq] at answerEq
  refine ⟨(asked.ask driver (.putItem table input)).2, rfl, ?_⟩
  unfold Crud.putItem
  rw [accepts.given]
  dsimp only
  rw [Program.run_attempt_of_ok (ask_primaryKey accepts.known),
    Program.run_attempt_of_ok answerEq]
  rfl

/-- A mutation that is not refused writes the row and goes on from there. -/
theorem run_putItem_of_accepts (nested : NestedResolve Store)
    (accepts : Crud.Accepts session.database table arguments stored input) :
    ∃ written : Session Store,
      written.database.table? table = some stored ∧
      written.database.rows table =
        (stored.upsert input (session.database.rows table)).1 ∧
      (Crud.putItem table arguments).run driver nested session =
        (Crud.afterWriting table stored.primaryKey input
            (stored.upsert input (session.database.rows table)).2).run
          driver nested written := by
  obtain ⟨written, databaseEq, runEq⟩ :=
    exists_written_of_accepts nested accepts
  rw [putItem_of_known accepts.known accepts.columnsKnown] at databaseEq
  refine ⟨written, ?_, ?_, runEq⟩
  · rw [databaseEq]
    exact accepts.known
  · rw [databaseEq]
    exact rows_setRows _ table _

/-! ### Refusals -/

/-- Nothing is asked of the store when there is no object to write. -/
theorem run_putItem_of_no_object (nested : NestedResolve Store)
    (session : Session Store) (table : String)
    (absent : (arguments.get? "input").bind (·.asObject?) = none) :
    (Crud.putItem table arguments).run driver nested session =
      (some (.error (.invalidArgument
        (Naming.putItemField table ++ " requires an input object"))),
        session) := by
  unfold Crud.putItem
  rw [absent]
  rfl

/-- Nothing is written to a table that is unknown. -/
theorem run_putItem_of_unknown_table (nested : NestedResolve Store)
    (given : (arguments.get? "input").bind (·.asObject?) = some input)
    (unknown : session.database.table? table = none) :
    ∃ after : Session Store,
      (Crud.putItem table arguments).run driver nested session =
        (some (.error (.driver (.unknownTable table))), after) ∧
      after.database.rows = session.database.rows := by
  have answerEq : (session.ask driver (.primaryKey table)).1 =
      (session.database.knownTable table).map (·.primaryKey) := rfl
  unfold knownTable at answerEq
  rw [unknown] at answerEq
  refine ⟨(session.ask driver (.primaryKey table)).2, ?_, rfl⟩
  unfold Crud.putItem
  rw [given]
  dsimp only
  rw [Program.run_attempt_of_error answerEq]

theorem run_putItem_of_unknown_column (nested : NestedResolve Store)
    {column : String}
    (given : (arguments.get? "input").bind (·.asObject?) = some input)
    (known : session.database.table? table = some stored)
    (unknown : stored.unknownColumn? input = some column) :
    ∃ after : Session Store,
      (Crud.putItem table arguments).run driver nested session =
        (some (.error (.driver (.unknownColumn table column))), after) ∧
      after.database.rows = session.database.rows := by
  have refused := putItem_of_unknown_column known unknown
  let asked := (session.ask driver (.primaryKey table)).2
  have answerEq : (asked.ask driver (.putItem table input)).1 =
      (session.database.putItem table input).1 := rfl
  have databaseEq : (asked.ask driver (.putItem table input)).2.database =
      (session.database.putItem table input).2 := rfl
  rw [refused] at answerEq databaseEq
  refine ⟨(asked.ask driver (.putItem table input)).2, ?_, ?_⟩
  · unfold Crud.putItem
    rw [given]
    dsimp only
    rw [Program.run_attempt_of_ok (ask_primaryKey known),
      Program.run_attempt_of_error answerEq]
  · rw [databaseEq]
    rfl

/-- A mutation that comes to a value was not refused. -/
theorem exists_accepts_of_run_putItem
    (returned :
      (Crud.putItem table arguments).run driver nested session =
        (some (.ok value), after)) :
    ∃ stored input,
      Crud.Accepts session.database table arguments stored input := by
  cases given : (arguments.get? "input").bind (·.asObject?) with
  | none =>
      rw [run_putItem_of_no_object nested session table given] at returned
      nomatch returned
  | some input =>
      cases known : session.database.table? table with
      | none =>
          obtain ⟨_, refused, _⟩ :=
            run_putItem_of_unknown_table nested given known
          rw [refused] at returned
          nomatch returned
      | some stored =>
          cases unknown : stored.unknownColumn? input with
          | some column =>
              obtain ⟨_, refused, _⟩ :=
                run_putItem_of_unknown_column nested given known unknown
              rw [refused] at returned
              nomatch returned
          | none => exact ⟨stored, input, known, given, unknown⟩

theorem showsRecord_of_run_putItem
    (returned :
      (Crud.putItem table arguments).run driver nested session =
        (some (.ok value), after)) :
    after.database.ShowsRecord table value := by
  obtain ⟨stored, input, accepts⟩ := exists_accepts_of_run_putItem returned
  obtain ⟨written, _, _, runEq⟩ := run_putItem_of_accepts nested accepts
  rw [runEq] at returned
  unfold Crud.afterWriting at returned
  cases key : Crud.writtenKey? stored.primaryKey input
      (stored.upsert input (session.database.rows table)).2 with
  | none =>
      rw [key] at returned
      nomatch returned
  | some text =>
      rw [key] at returned
      exact showsRecord_of_run_fetchFirst returned

end Store

end TableGateway
