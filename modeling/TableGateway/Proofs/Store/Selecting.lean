import Mathlib.Data.List.Basic
import TableGateway.Proofs.Resolver.Polling
import TableGateway.Resolver.Relation
import TableGateway.Store.Basic

/-!
# What a store gives to a resolver

Sorting and cutting pages take rows from those that satisfy the filter. The
programs that fetch a record or a page come down to one selection in a store,
since noting a request leaves the rows as they are.
-/

namespace TableGateway

/-! ## Selections -/

namespace ParsedArguments

/-- The clauses that a caller has given. -/
def clauses (parsed : ParsedArguments) : List FilterClause :=
  match parsed.filter with
  | none => []
  | some condition => condition.clauses

theorem matching_eq_filter (parsed : ParsedArguments) (rows : List Json) :
    parsed.matching rows =
      rows.filter fun row => parsed.clauses.all (·.isSatisfied row) := by
  unfold matching clauses
  cases parsed.filter with
  | none => simp
  | some condition => rfl

theorem select_of_order {arguments : ParsedArguments} {order : OrderBy}
    (asked : arguments.pagination.bind (·.orderBy?) = some order)
    (rows : List Json) :
    arguments.select rows = order.sort (arguments.matching rows) := by
  simp only [select, ordered, asked]

theorem select_of_no_order {arguments : ParsedArguments}
    (absent : arguments.pagination.bind (·.orderBy?) = none)
    (rows : List Json) :
    arguments.select rows = arguments.matching rows := by
  simp only [select, ordered, absent]

theorem select_perm (arguments : ParsedArguments) (rows : List Json) :
    (arguments.select rows).Perm (arguments.matching rows) := by
  unfold select ordered
  split
  · exact List.Perm.refl _
  · exact List.mergeSort_perm _ _

theorem mem_of_mem_matching {arguments : ParsedArguments}
    {rows : List Json} {row : Json}
    (member : row ∈ arguments.matching rows) : row ∈ rows := by
  unfold matching at member
  split at member
  · exact member
  · exact (List.mem_filter.mp member).1

theorem mem_of_mem_select {arguments : ParsedArguments}
    {rows : List Json} {row : Json} (member : row ∈ arguments.select rows) :
    row ∈ rows :=
  mem_of_mem_matching ((arguments.select_perm rows).mem_iff.mp member)

theorem stretch_sublist (arguments : ParsedArguments) (rows : List Json) :
    (arguments.stretch rows).Sublist rows := by
  have restSublist := List.drop_sublist
    ((arguments.pagination.bind (·.offset?)).getD 0) rows
  unfold stretch
  dsimp only
  split
  · exact restSublist
  · exact (List.take_sublist _ _).trans restSublist

theorem stretch_eq_self {parsed : ParsedArguments} {rows : List Json}
    (noLimit : parsed.pagination.bind (·.limit?) = none)
    (noOffset : parsed.pagination.bind (·.offset?) = none) :
    parsed.stretch rows = rows := by
  simp [stretch, noLimit, noOffset]

theorem matching_withDefaultLimit (limit : Option Nat)
    (parsed : ParsedArguments) (rows : List Json) :
    (Crud.withDefaultLimit limit parsed).matching rows =
      parsed.matching rows := by
  cases limit with
  | none => rfl
  | some size => rfl

end ParsedArguments

/-! ## Fetching from a store -/

namespace Store

theorem select_of_known {store : Store} {table : String}
    {stored : StoredTable} (known : store.table? table = some stored)
    (arguments : ParsedArguments) :
    store.select table arguments =
      .ok (arguments.select (store.rows table)) := by
  unfold select knownTable
  rw [known]
  rfl

/-- The requests that a store has noted have no bearing on what it selects. -/
theorem select_of_same {left right : Store}
    (same : left.clearCalls = right.clearCalls) (table : String)
    (arguments : ParsedArguments) :
    left.select table arguments = right.select table arguments := by
  have selected := congrArg (·.select table arguments) same
  exact selected

theorem select_of_unknown {store : Store} {table : String}
    (unknown : store.table? table = none) (arguments : ParsedArguments) :
    store.select table arguments = .error (.unknownTable table) := by
  unfold select knownTable
  rw [unknown]
  rfl

end Store

namespace Program

variable {State : Type} {driver : Driver State}
  {nested : NestedResolve State} {session : Session State}
  {request : DataRequest} {next : request.Answer → Program Outcome}

theorem run_attempt_of_error {fault : DriverError}
    (answered : (session.ask driver request).1 = .error fault) :
    (attempt request next).run driver nested session =
      (some (.error (.driver fault)),
        (session.ask driver request).2) := by
  unfold attempt run
  generalize session.ask driver request = asked at answered ⊢
  obtain ⟨answer, after⟩ := asked
  cases answered
  rfl

theorem run_attempt_of_ok {answer : request.Answer}
    (answered : (session.ask driver request).1 = .ok answer) :
    (attempt request next).run driver nested session =
      (next answer).run driver nested
        (session.ask driver request).2 := by
  unfold attempt
  rw [run]
  generalize session.ask driver request = asked at answered ⊢
  obtain ⟨result, after⟩ := asked
  cases answered
  rfl

/-- Behind the request for a record nothing more happens. -/
theorem snd_run_fetchFirst (driver : Driver State)
    (nested : NestedResolve State) (session : Session State)
    (table : String) (parsed : ParsedArguments) :
    ((Crud.fetchFirst table parsed).run driver nested session).2 =
      (session.ask driver (.firstOf table parsed)).2 := by
  unfold Crud.fetchFirst attempt
  rw [run]
  cases session.ask driver (.firstOf table parsed) with
  | mk result after =>
      cases result with
      | error fault => rfl
      | ok record => rfl

/-- Behind the two requests for a page nothing more happens. -/
theorem snd_run_fetchPage (driver : Driver State)
    (nested : NestedResolve State) (session : Session State)
    (limit : Option Nat) (table : String) (parsed : ParsedArguments) :
    let arguments := Crud.withDefaultLimit limit parsed
    ((Crud.fetchPage limit table parsed).run driver nested session).2 =
      (session.join driver (.pageTotal table arguments)
        (.page table arguments)).2 := by
  intro arguments
  unfold Crud.fetchPage attemptBoth
  dsimp only
  rw [run]
  cases session.join driver (.pageTotal table arguments)
      (.page table arguments) with
  | mk result after =>
      cases result with
      | error fault => rfl
      | ok answers => rfl

/-- A program that reads arguments goes on with them, or fails at once. -/
theorem withArguments_cases (table : String) (arguments : Arguments)
    (next : ParsedArguments → Program Outcome) :
    (∃ parsed, withArguments table arguments next = next parsed) ∨
      ∃ fault, withArguments table arguments next = .fail fault := by
  unfold withArguments
  cases ParsedArguments.parse table arguments with
  | error fault => exact Or.inr ⟨_, rfl⟩
  | ok parsed => exact Or.inl ⟨parsed, rfl⟩

/-- A program that reads arguments and comes to a value has read them. -/
theorem exists_parsed_of_value {after : Session State} {table : String}
    {arguments : Arguments} {next : ParsedArguments → Program Outcome}
    {value : Json}
    (returned :
      (withArguments table arguments next).run driver nested session =
        (some (.ok value), after)) :
    ∃ parsed,
      (next parsed).run driver nested session =
        (some (.ok value), after) := by
  rcases withArguments_cases table arguments next with
    ⟨parsed, readEq⟩ | ⟨fault, failedEq⟩
  · rw [readEq] at returned
    exact ⟨parsed, returned⟩
  · rw [failedEq] at returned
    nomatch returned

theorem exists_parsed_of_run_withArguments {table : String}
    {arguments : Arguments} {next : ParsedArguments → Program Outcome}
    {value : Json}
    (returned :
      ((withArguments table arguments next).run driver nested session).1 =
        some (.ok value)) :
    ∃ parsed,
      ((next parsed).run driver nested session).1 = some (.ok value) := by
  obtain ⟨parsed, readEq⟩ := exists_parsed_of_value (Prod.ext returned rfl)
  exact ⟨parsed, congrArg Prod.fst readEq⟩

theorem withArguments_nil (table : String)
    (next : ParsedArguments → Program Outcome) :
    withArguments table [] next = next (.empty table) := rfl

end Program

namespace Store

variable (nested : NestedResolve Store) (session : Session Store)

theorem run_fetchFirst (table : String) (parsed : ParsedArguments) :
    ((Crud.fetchFirst table parsed).run driver nested session).1 =
      match session.database.select table parsed with
      | .error fault => some (.error (.driver fault))
      | .ok rows => some (.ok (rows.head?.getD .null)) := by
  have answered :
      (session.ask driver (.firstOf table parsed)).1 =
        (session.database.select table parsed).map List.head? := rfl
  unfold Crud.fetchFirst
  cases selected : session.database.select table parsed with
  | error fault =>
      rw [selected] at answered
      rw [Program.run_attempt_of_error answered]
  | ok rows =>
      rw [selected] at answered
      rw [Program.run_attempt_of_ok answered]
      rfl

/-- The records of a page and their total number are of one selection. -/
theorem run_fetchPage (limit : Option Nat) (table : String)
    (parsed : ParsedArguments) :
    ((Crud.fetchPage limit table parsed).run driver nested session).1 =
      match session.database.select table
        (Crud.withDefaultLimit limit parsed) with
      | .error fault => some (.error (.driver fault))
      | .ok rows =>
          some (.ok (Crud.pageValue table rows.length
            ((Crud.withDefaultLimit limit parsed).stretch rows))) := by
  unfold Crud.fetchPage
  generalize Crud.withDefaultLimit limit parsed = arguments
  dsimp only
  rw [Program.run_attemptBoth_of_ready rfl]
  have totalAnswered :
      (session.ask driver (.pageTotal table arguments)).1 =
        (session.database.select table arguments).map List.length := rfl
  have pageAnswered :
      ((session.ask driver (.pageTotal table arguments)).2.ask driver
          (.page table arguments)).1 =
        (session.database.select table arguments).map
          arguments.stretch := rfl
  cases selected : session.database.select table arguments with
  | error fault =>
      rw [selected] at totalAnswered
      rw [Program.run_attempt_of_error totalAnswered]
  | ok rows =>
      rw [selected] at totalAnswered pageAnswered
      rw [Program.run_attempt_of_ok totalAnswered,
        Program.run_attempt_of_ok pageAnswered]
      rfl

/-- Fetching a record changes nothing but the requests that are noted. -/
theorem clearCalls_run_fetchFirst (table : String)
    (parsed : ParsedArguments) :
    ((Crud.fetchFirst table parsed).run driver nested
        session).2.database.clearCalls =
      session.database.clearCalls := by
  rw [Program.snd_run_fetchFirst]
  rfl

theorem clearCalls_run_fetchPage (limit : Option Nat) (table : String)
    (parsed : ParsedArguments) :
    ((Crud.fetchPage limit table parsed).run driver nested
        session).2.database.clearCalls =
      session.database.clearCalls := by
  unfold Crud.fetchPage
  generalize Crud.withDefaultLimit limit parsed = arguments
  dsimp only
  rw [Program.run_attemptBoth_of_ready rfl]
  cases totalAnswered :
      (session.ask driver (.pageTotal table arguments)).1 with
  | error fault =>
      rw [Program.run_attempt_of_error totalAnswered]
      rfl
  | ok total =>
      rw [Program.run_attempt_of_ok totalAnswered]
      cases pageAnswered :
          ((session.ask driver (.pageTotal table arguments)).2.ask driver
            (.page table arguments)).1 with
      | error fault =>
          rw [Program.run_attempt_of_error pageAnswered]
          rfl
      | ok items =>
          rw [Program.run_attempt_of_ok pageAnswered]
          rfl

variable {nested session} {table : String} {parsed : ParsedArguments}

theorem of_run_fetchFirst {record : Json}
    (returned :
      ((Crud.fetchFirst table parsed).run driver nested session).1 =
        some (.ok record)) :
    (∃ stored, session.database.table? table = some stored) ∧
      record =
        (parsed.select (session.database.rows table)).head?.getD
          .null := by
  rw [run_fetchFirst] at returned
  cases known : session.database.table? table with
  | none =>
      rw [select_of_unknown known] at returned
      nomatch returned
  | some stored =>
      rw [select_of_known known] at returned
      exact ⟨⟨stored, rfl⟩,
        (Except.ok.inj (Option.some.inj returned)).symm⟩

theorem of_run_fetchPage {limit : Option Nat} {page : Json}
    (returned :
      ((Crud.fetchPage limit table parsed).run driver nested session).1 =
        some (.ok page)) :
    (∃ stored, session.database.table? table = some stored) ∧
      ∃ total,
        page = Crud.pageValue table total
          ((Crud.withDefaultLimit limit parsed).stretch
            ((Crud.withDefaultLimit limit parsed).select
              (session.database.rows table))) := by
  rw [run_fetchPage] at returned
  cases known : session.database.table? table with
  | none =>
      rw [select_of_unknown known] at returned
      nomatch returned
  | some stored =>
      rw [select_of_known known] at returned
      exact ⟨⟨stored, rfl⟩, _,
        (Except.ok.inj (Option.some.inj returned)).symm⟩

end Store

end TableGateway
