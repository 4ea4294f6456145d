import Mathlib.Data.List.Induction
import TableGateway.Proofs.Schema.Operations

/-!
# The report and the latest attempts

The history of a compiler is the list of all attempts to map a column, each with
what the driver said at the time. A report follows from the history alone: of
every place it has the record of the latest attempt if that has failed, and the
records stand in the order of these attempts (`TriedColumn.Reflects`). One attempt
keeps a report so (`TriedColumn.Tracks.apply`), and the main statement is
`Compiler.runAll_reflects`: the report is so after all operations on a fresh
compiler, whatever becomes of the driver between them.
-/

namespace TableGateway

/-! ## Histories -/

/-- An attempt to map a column, with the answer of the driver. -/
structure TriedColumn where
  attempt : ColumnAttempt
  answer : Except DriverError String

namespace TriedColumn

/-- What the attempt is for: a target type and a column of it. -/
def place (tried : TriedColumn) : String × String :=
  tried.attempt.place

/-- The record that the attempt leaves if it has failed. -/
def record? (tried : TriedColumn) : Option SkippedColumn :=
  match tried.answer with
  | .ok _ => none
  | .error reason =>
      some ⟨tried.attempt.table, tried.attempt.column.name,
        tried.attempt.target, reason⟩

theorem record?_eq_some_iff {tried : TriedColumn} {record : SkippedColumn} :
    tried.record? = some record ↔
      tried.answer = .error record.reason ∧
        tried.attempt.table = record.table ∧
        tried.place = record.place := by
  obtain ⟨⟨table, target, column⟩, answer⟩ := tried
  obtain ⟨recordTable, recordColumn, recordTarget, recordReason⟩ := record
  cases answer with
  | ok scalar => simp [record?]
  | error reason =>
      simp only [record?, place, ColumnAttempt.place, SkippedColumn.place,
        Option.some.injEq, SkippedColumn.mk.injEq, Except.error.injEq,
        Prod.mk.injEq]
      constructor
      · rintro ⟨tableEq, columnEq, targetEq, reasonEq⟩
        exact ⟨reasonEq, tableEq, targetEq, columnEq⟩
      · rintro ⟨reasonEq, tableEq, targetEq, columnEq⟩
        exact ⟨tableEq, columnEq, targetEq, reasonEq⟩

theorem place_of_record? {tried : TriedColumn} {record : SkippedColumn}
    (left : tried.record? = some record) : record.place = tried.place :=
  (record?_eq_some_iff.mp left).2.2.symm

/-- The report after an attempt. -/
def apply (skipped : List SkippedColumn) (tried : TriedColumn) :
    List SkippedColumn :=
  skipped.filter (·.place ≠ tried.place) ++ tried.record?.toList

/-- The attempt at a time of a history is the latest one for its place. -/
def IsLatest (history : List TriedColumn) (time : Nat)
    (tried : TriedColumn) : Prop :=
  history[time]? = some tried ∧
    ∀ later other, time < later → history[later]? = some other →
      other.place ≠ tried.place

/-- An attempt for a place has failed at a time of a history, and none for that
place has failed since. -/
def IsLatestFailure (history : List TriedColumn) (place : String × String)
    (time : Nat) : Prop :=
  (∃ tried reason, history[time]? = some tried ∧ tried.place = place ∧
      tried.answer = .error reason) ∧
    ∀ later other reason, time < later → history[later]? = some other →
      other.place = place → other.answer ≠ .error reason

variable {history : List TriedColumn} {skipped : List SkippedColumn}
  {tried other : TriedColumn} {time otherTime : Nat}

/-! ### The latest attempt -/

theorem getElem?_concat_eq_some_iff :
    (history ++ [tried])[time]? = some other ↔
      (time = history.length ∧ other = tried) ∨
        history[time]? = some other := by
  constructor
  · intro found
    by_cases isLast : time = history.length
    · subst isLast
      rw [List.getElem?_concat_length, Option.some.injEq] at found
      exact .inl ⟨rfl, found.symm⟩
    · have bound := (List.getElem?_eq_some_iff.mp found).1
      rw [List.length_append, List.length_singleton] at bound
      rw [List.getElem?_append_left (by omega)] at found
      exact .inr found
  · rintro (⟨rfl, rfl⟩ | found)
    · exact List.getElem?_concat_length
    · have inHistory := (List.getElem?_eq_some_iff.mp found).1
      rw [List.getElem?_append_left inHistory, found]

/-- A new attempt is the latest one for its place, and the latest ones for other
places stay so. -/
theorem isLatest_concat :
    IsLatest (history ++ [tried]) time other ↔
      (time = history.length ∧ other = tried) ∨
        (IsLatest history time other ∧ other.place ≠ tried.place) := by
  unfold IsLatest
  simp only [getElem?_concat_eq_some_iff]
  constructor
  · rintro ⟨isNew | found, noneLater⟩
    · exact .inl isNew
    · have inHistory := (List.getElem?_eq_some_iff.mp found).1
      refine .inr ⟨⟨found, ?_⟩, ?_⟩
      · intro later next after nextFound
        exact noneLater later next after (.inr nextFound)
      · exact (noneLater history.length tried inHistory
          (.inl ⟨rfl, rfl⟩)).symm
  · rintro (⟨rfl, rfl⟩ | ⟨⟨found, noneLater⟩, elsewhere⟩)
    · refine ⟨.inl ⟨rfl, rfl⟩, ?_⟩
      rintro later next after (⟨rfl, _⟩ | nextFound)
      · exact absurd after (Nat.lt_irrefl _)
      · have bound := (List.getElem?_eq_some_iff.mp nextFound).1
        exact absurd after (Nat.lt_asymm bound)
    · refine ⟨.inr found, ?_⟩
      rintro later next after (⟨_, rfl⟩ | nextFound)
      · exact elsewhere.symm
      · exact noneLater later next after nextFound

/-- There is one latest attempt for a place, at one time. -/
theorem IsLatest.unique (latest : IsLatest history time tried)
    (otherLatest : IsLatest history otherTime other)
    (samePlace : tried.place = other.place) :
    time = otherTime ∧ tried = other := by
  obtain ⟨found, noneLater⟩ := latest
  obtain ⟨otherFound, noneLaterThanOther⟩ := otherLatest
  rcases Nat.lt_trichotomy time otherTime with before | same | behind
  · exact absurd samePlace.symm (noneLater otherTime other before otherFound)
  · subst same
    exact ⟨rfl, Option.some.inj (found.symm.trans otherFound)⟩
  · exact absurd samePlace (noneLaterThanOther time tried behind found)

/-- Where the latest attempt for a place has failed, it is the latest failure. -/
theorem IsLatest.isLatestFailure {reason : DriverError}
    (latest : IsLatest history time tried)
    (failed : tried.answer = .error reason) :
    IsLatestFailure history tried.place time := by
  obtain ⟨found, noneLater⟩ := latest
  refine ⟨⟨tried, reason, found, rfl, failed⟩, ?_⟩
  intro later other _ after otherFound samePlace
  exact absurd samePlace (noneLater later other after otherFound)

/-! ### What a report tells -/

/-- A report tells the latest attempts of a history: it has no two records for
one place, it has a record for a place if and only if the latest attempt for it
has failed, with the table and the error of that attempt, and its records stand
in the order in which their places have failed for the last time. -/
structure Reflects (history : List TriedColumn)
    (skipped : List SkippedColumn) : Prop where
  distinct : (skipped.map (·.place)).Nodup
  listed : ∀ target column,
    (∃ record ∈ skipped, record.target = target ∧ record.column = column) ↔
      ∃ time tried reason, IsLatest history time tried ∧
        tried.attempt.target = target ∧ tried.attempt.column.name = column ∧
        tried.answer = .error reason
  recorded : ∀ record ∈ skipped, ∀ time tried, IsLatest history time tried →
    tried.place = record.place →
      record.table = tried.attempt.table ∧ tried.answer = .error record.reason
  ordered : skipped.Pairwise fun earlier later =>
    ∃ time laterTime, IsLatestFailure history earlier.place time ∧
      IsLatestFailure history later.place laterTime ∧ time < laterTime

/-- A record was left by the latest attempt for its place, at a time. -/
def LeftAt (history : List TriedColumn) (time : Nat) (record : SkippedColumn) :
    Prop :=
  ∃ tried, IsLatest history time tried ∧ tried.record? = some record

/-- A report has the records that latest attempts have left, in their order. -/
structure Tracks (history : List TriedColumn)
    (skipped : List SkippedColumn) : Prop where
  distinct : (skipped.map (·.place)).Nodup
  mem_iff : ∀ record, record ∈ skipped ↔ ∃ time, LeftAt history time record
  ordered : skipped.Pairwise fun earlier later =>
    ∃ time laterTime, time < laterTime ∧ LeftAt history time earlier ∧
      LeftAt history laterTime later

theorem leftAt_concat {record : SkippedColumn} :
    LeftAt (history ++ [tried]) time record ↔
      (time = history.length ∧ tried.record? = some record) ∨
        (LeftAt history time record ∧ record.place ≠ tried.place) := by
  unfold LeftAt
  simp only [isLatest_concat]
  constructor
  · rintro ⟨other, ⟨timeEq, rfl⟩ | ⟨latest, elsewhere⟩, leaves⟩
    · exact .inl ⟨timeEq, leaves⟩
    · rw [← place_of_record? leaves] at elsewhere
      exact .inr ⟨⟨other, latest, leaves⟩, elsewhere⟩
  · rintro (⟨timeEq, leaves⟩ | ⟨⟨other, latest, leaves⟩, elsewhere⟩)
    · exact ⟨tried, .inl ⟨timeEq, rfl⟩, leaves⟩
    · rw [place_of_record? leaves] at elsewhere
      exact ⟨other, .inr ⟨latest, elsewhere⟩, leaves⟩

theorem LeftAt.lt_length {record : SkippedColumn}
    (left : LeftAt history time record) : time < history.length := by
  obtain ⟨_, ⟨found, _⟩, _⟩ := left
  exact (List.getElem?_eq_some_iff.mp found).1

theorem tracks_nil : Tracks [] [] where
  distinct := List.nodup_nil
  mem_iff record := by simp [LeftAt, IsLatest]
  ordered := List.Pairwise.nil

/-- An attempt keeps a report on track. -/
theorem Tracks.apply (tracks : Tracks history skipped)
    (tried : TriedColumn) :
    Tracks (history ++ [tried]) (TriedColumn.apply skipped tried) where
  distinct := by
    unfold TriedColumn.apply
    rw [List.map_append, List.nodup_append]
    refine ⟨(List.filter_sublist.map _).nodup tracks.distinct, ?_, ?_⟩
    · cases tried.record? <;> simp
    · intro place struck other left same
      obtain ⟨record, member, rfl⟩ := List.mem_map.mp struck
      obtain ⟨added, addedMember, rfl⟩ := List.mem_map.mp left
      have elsewhere := of_decide_eq_true (List.mem_filter.mp member).2
      rw [same, place_of_record? (Option.mem_toList.mp addedMember)]
        at elsewhere
      exact elsewhere rfl
  mem_iff record := by
    unfold TriedColumn.apply
    simp only [List.mem_append, List.mem_filter, tracks.mem_iff, leftAt_concat,
      Option.mem_toList, decide_eq_true_eq]
    constructor
    · rintro (⟨⟨time, left⟩, elsewhere⟩ | leaves)
      · exact ⟨time, .inr ⟨left, elsewhere⟩⟩
      · exact ⟨history.length, .inl ⟨rfl, leaves⟩⟩
    · rintro ⟨time, ⟨_, leaves⟩ | ⟨left, elsewhere⟩⟩
      · exact .inr leaves
      · exact .inl ⟨⟨time, left⟩, elsewhere⟩
  ordered := by
    unfold TriedColumn.apply
    rw [List.pairwise_append, List.pairwise_filter]
    refine ⟨tracks.ordered.imp ?_, ?_, ?_⟩
    · rintro earlier later ⟨time, laterTime, before, left, leftLater⟩ kept
        keptLater
      exact ⟨time, laterTime, before,
        leftAt_concat.mpr (.inr ⟨left, of_decide_eq_true kept⟩),
        leftAt_concat.mpr (.inr ⟨leftLater, of_decide_eq_true keptLater⟩)⟩
    · cases tried.record? <;> simp
    · intro earlier member later leaves
      obtain ⟨inReport, elsewhere⟩ := List.mem_filter.mp member
      obtain ⟨time, left⟩ := (tracks.mem_iff earlier).mp inReport
      exact ⟨time, history.length, left.lt_length,
        leftAt_concat.mpr (.inr ⟨left, of_decide_eq_true elsewhere⟩),
        leftAt_concat.mpr (.inl ⟨rfl, Option.mem_toList.mp leaves⟩)⟩

theorem tracks_foldl (history : List TriedColumn) :
    Tracks history (history.foldl apply []) := by
  induction history using List.reverseRecOn with
  | nil => exact tracks_nil
  | append_singleton earlier tried inductionHypothesis =>
      rw [List.foldl_concat]
      exact inductionHypothesis.apply tried

theorem LeftAt.isLatestFailure {record : SkippedColumn}
    (left : LeftAt history time record) :
    IsLatestFailure history record.place time := by
  obtain ⟨tried, latest, leaves⟩ := left
  rw [place_of_record? leaves]
  exact latest.isLatestFailure (record?_eq_some_iff.mp leaves).1

theorem Tracks.reflects (tracks : Tracks history skipped) :
    Reflects history skipped where
  distinct := tracks.distinct
  listed target column := by
    simp only [tracks.mem_iff]
    constructor
    · rintro ⟨record, ⟨time, tried, latest, leaves⟩, rfl, rfl⟩
      obtain ⟨failed, _, samePlace⟩ := record?_eq_some_iff.mp leaves
      obtain ⟨targetEq, columnEq⟩ := Prod.mk.inj samePlace
      exact ⟨time, tried, record.reason, latest, targetEq, columnEq, failed⟩
    · rintro ⟨time, tried, reason, latest, rfl, rfl, failed⟩
      refine ⟨⟨tried.attempt.table, tried.attempt.column.name,
        tried.attempt.target, reason⟩, ⟨time, tried, latest, ?_⟩, rfl, rfl⟩
      exact record?_eq_some_iff.mpr ⟨failed, rfl, rfl⟩
  recorded := by
    intro record member time tried latest samePlace
    obtain ⟨leftTime, other, otherLatest, leaves⟩ :=
      (tracks.mem_iff record).mp member
    have otherPlace := place_of_record? leaves
    obtain ⟨_, rfl⟩ := latest.unique otherLatest (samePlace.trans otherPlace)
    obtain ⟨failed, sameTable, _⟩ := record?_eq_some_iff.mp leaves
    exact ⟨sameTable.symm, failed⟩
  ordered := by
    refine tracks.ordered.imp ?_
    rintro earlier later ⟨time, laterTime, before, left, leftLater⟩
    exact ⟨time, laterTime, left.isLatestFailure, leftLater.isLatestFailure,
      before⟩

end TriedColumn

/-! ## What operations attempt -/

namespace CompilerOperation

/-- The attempts to map a column that an operation makes, in order: for every
column of a table, once for its object type and once for its input type. -/
def attempts (catalog : Catalog) : CompilerOperation → List ColumnAttempt
  | build =>
      match catalog.allMetadata with
      | .error _ => []
      | .ok tables =>
          tables.flatMap (·.attempts Naming.typeName) ++
            tables.flatMap (·.attempts Naming.inputTypeName)
  | buildTable table =>
      match catalog.tableMetadata table with
      | .error _ => []
      | .ok metadata =>
          metadata.attempts Naming.typeName ++
            metadata.attempts Naming.inputTypeName
  | mapType metadata => metadata.attempts Naming.typeName
  | mapInput metadata => metadata.attempts Naming.inputTypeName
  | mapPage _ | mapQuery _ | mapMutation _ | addField _ _
  | addInputField _ _ _ | render | refresh => []

theorem attempts_onTable (catalog : Catalog) (table : String)
    (metadata : TableMetadata) :
    (CompilerWork.onTable catalog table metadata).attempts =
      metadata.attempts Naming.typeName ++
        metadata.attempts Naming.inputTypeName := by
  change (metadata.attempts Naming.typeName ++ [] ++ [] ++
    metadata.attempts Naming.inputTypeName) ++ [] = _
  rw [List.append_nil, List.append_nil, List.append_nil]

theorem skipped_step (catalog : Catalog) (operation : CompilerOperation)
    (compiler : Compiler) :
    (operation.step catalog compiler).2.skipped =
      (operation.attempts catalog).foldl (ColumnAttempt.apply catalog)
        compiler.skipped := by
  cases operation with
  | build =>
      rw [step_build, Compiler.build_eq_map, attempts]
      cases catalog.allMetadata with
      | error fault => rfl
      | ok tables => rfl
  | buildTable table =>
      rw [step_buildTable, Compiler.buildTable_eq_map, attempts]
      cases catalog.tableMetadata table with
      | error fault => rfl
      | ok metadata =>
          exact congrArg (List.foldl _ _)
            (attempts_onTable catalog table metadata)
  | mapType metadata => exact Compiler.skipped_mapType catalog compiler metadata
  | mapInput metadata =>
      exact Compiler.skipped_mapInput catalog compiler metadata
  | render =>
      obtain ⟨model, skipped, rendered⟩ := compiler
      cases rendered with
      | none => rfl
      | some text => rfl
  | _ => rfl

end CompilerOperation

/-- The attempts of a request, with what the driver says at the time. -/
def CompilerRequest.tried (request : CompilerRequest) : List TriedColumn :=
  (request.operation.attempts request.catalog).map fun attempt =>
    ⟨attempt, request.catalog.mapColumnType attempt.column⟩

namespace Compiler

/-- All attempts of a list of requests, in order. -/
def history (requests : List CompilerRequest) : List TriedColumn :=
  requests.flatMap (·.tried)

theorem skipped_runAll (requests : List CompilerRequest)
    (compiler : Compiler) :
    (compiler.runAll requests).skipped =
      (history requests).foldl TriedColumn.apply compiler.skipped := by
  induction requests generalizing compiler with
  | nil => rfl
  | cons request rest inductionHypothesis =>
      refine (inductionHypothesis _).trans ?_
      rw [CompilerOperation.skipped_step, history, history, List.flatMap_cons,
        List.foldl_append, CompilerRequest.tried, List.foldl_map]
      rfl

/-- Whatever is asked of a fresh compiler, and whatever the driver says about its
tables and types each time, the report of skipped columns tells the latest
attempt for every column of every target. -/
theorem runAll_reflects (requests : List CompilerRequest) :
    TriedColumn.Reflects (history requests)
      (fresh.runAll requests).skipped := by
  rw [skipped_runAll]
  exact (TriedColumn.tracks_foldl (history requests)).reflects

end Compiler

end TableGateway
