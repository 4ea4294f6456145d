import Mathlib.Data.List.Perm.Subperm
import TableGateway.Proofs.Naming
import TableGateway.Proofs.Schema.Compiled

/-!
# The report of skipped columns

Every attempt to map a column strikes the record that stands under the same
target and column, and leaves one of its own if it fails. Attempts for different
places strike nothing but old records (`ColumnAttempt.foldl_apply`), and the same
attempts once more leave the same report
(`ColumnAttempt.foldl_apply_foldl_apply`). A compiler makes two attempts for
every column, and `Compiler.skipped_perm_iff` says when the report is complete.
-/

namespace TableGateway

/-! ## Attempts -/

/-- An attempt to map a column of a table for a target type. -/
structure ColumnAttempt where
  table : String
  target : String
  column : Column

/-- What a record is struck by: its target type and its column. -/
def SkippedColumn.place (record : SkippedColumn) : String × String :=
  (record.target, record.column)

namespace ColumnAttempt

def place (attempt : ColumnAttempt) : String × String :=
  (attempt.target, attempt.column.name)

/-- The record that an attempt leaves when it fails. -/
def record? (catalog : Catalog) (attempt : ColumnAttempt) :
    Option SkippedColumn :=
  match catalog.mapColumnType attempt.column with
  | .ok _ => none
  | .error reason =>
      some ⟨attempt.table, attempt.column.name, attempt.target, reason⟩

theorem record?_eq_some_iff {catalog : Catalog} {attempt : ColumnAttempt}
    {record : SkippedColumn} :
    attempt.record? catalog = some record ↔
      ∃ reason, catalog.mapColumnType attempt.column = .error reason ∧
        record =
          ⟨attempt.table, attempt.column.name, attempt.target, reason⟩ := by
  unfold record?
  cases catalog.mapColumnType attempt.column with
  | error reason => simp [eq_comm]
  | ok scalar => simp

/-- The records after an attempt. -/
def apply (catalog : Catalog) (skipped : List SkippedColumn)
    (attempt : ColumnAttempt) : List SkippedColumn :=
  skipped.filter (·.place ≠ attempt.place) ++
    (attempt.record? catalog).toList

/-- Attempts strike the records of their places, whatever these say, and leave
what they would leave where there were no records. -/
theorem foldl_apply_eq_append (catalog : Catalog)
    (attempts : List ColumnAttempt) (skipped : List SkippedColumn) :
    attempts.foldl (apply catalog) skipped =
      skipped.filter (·.place ∉ attempts.map place) ++
        attempts.foldl (apply catalog) [] := by
  induction attempts generalizing skipped with
  | nil => simp
  | cons attempt rest inductionHypothesis =>
      have others :
          (skipped.filter (·.place ≠ attempt.place)).filter
              (·.place ∉ rest.map place) =
            skipped.filter
              (·.place ∉ (attempt :: rest).map place) := by
        rw [List.filter_filter]
        apply List.filter_congr
        intro record _
        simp only [List.map_cons, List.mem_cons, not_or, Bool.decide_and,
          Bool.and_comm]
      rw [List.foldl_cons, List.foldl_cons, inductionHypothesis,
        inductionHypothesis (apply catalog [] attempt), apply, apply,
        List.filter_append, others, List.filter_nil, List.nil_append,
        List.append_assoc]

/-- The record of an attempt stands under the place of the attempt. -/
theorem place_of_mem_record? {catalog : Catalog} {attempt : ColumnAttempt}
    {record : SkippedColumn}
    (member : record ∈ (attempt.record? catalog).toList) :
    record.place = attempt.place := by
  obtain ⟨reason, _, rfl⟩ :=
    record?_eq_some_iff.mp (Option.mem_toList.mp member)
  rfl

/-- After attempts for different places there are the records of other places,
and then those of the attempts that failed. -/
theorem foldl_apply (catalog : Catalog) {attempts : List ColumnAttempt}
    (different : (attempts.map place).Nodup)
    (skipped : List SkippedColumn) :
    attempts.foldl (apply catalog) skipped =
      skipped.filter (·.place ∉ attempts.map place) ++
        attempts.filterMap (record? catalog) := by
  rw [foldl_apply_eq_append]
  congr 1
  induction attempts with
  | nil => rfl
  | cons attempt rest inductionHypothesis =>
      rw [List.map_cons, List.nodup_cons] at different
      -- No later attempt is for the place of the first one, so that its record
      -- is not struck any more.
      have keeps : (attempt.record? catalog).toList.filter
          (·.place ∉ rest.map place) =
            (attempt.record? catalog).toList := by
        rw [List.filter_eq_self]
        intro record member
        rw [place_of_mem_record? member]
        exact decide_eq_true different.1
      have consEq : (attempt :: rest).filterMap (record? catalog) =
          (attempt.record? catalog).toList ++
            rest.filterMap (record? catalog) := by
        cases left : attempt.record? catalog <;> simp [left]
      rw [List.foldl_cons, foldl_apply_eq_append, apply, List.filter_nil,
        List.nil_append, keeps, inductionHypothesis different.2, consEq]

/-- A record that attempts leave where there were none stands under the place of
one of them. -/
theorem place_mem_of_mem_foldl_apply {catalog : Catalog}
    {attempts : List ColumnAttempt} {record : SkippedColumn}
    (member : record ∈ attempts.foldl (apply catalog) []) :
    record.place ∈ attempts.map place := by
  induction attempts with
  | nil => cases member
  | cons attempt rest inductionHypothesis =>
      rw [List.foldl_cons, foldl_apply_eq_append, List.mem_append,
        List.mem_filter, apply, List.filter_nil, List.nil_append] at member
      rcases member with ⟨ofFirst, _⟩ | ofRest
      · rw [place_of_mem_record? ofFirst]
        exact List.mem_cons_self
      · exact List.mem_cons_of_mem _ (inductionHypothesis ofRest)

/-- The same attempts once more leave the same report, in the same order. -/
theorem foldl_apply_foldl_apply (catalog : Catalog)
    (attempts : List ColumnAttempt) (skipped : List SkippedColumn) :
    attempts.foldl (apply catalog)
        (attempts.foldl (apply catalog) skipped) =
      attempts.foldl (apply catalog) skipped := by
  have struck : (attempts.foldl (apply catalog) []).filter
      (·.place ∉ attempts.map place) = [] := by
    rw [List.filter_eq_nil_iff]
    intro record member
    simpa using place_mem_of_mem_foldl_apply member
  rw [foldl_apply_eq_append catalog attempts skipped, foldl_apply_eq_append,
    List.filter_append, struck, List.append_nil, List.filter_filter]
  simp only [Bool.and_self]

end ColumnAttempt

/-! ## The attempts of a compiler -/

namespace TableMetadata

/-- One attempt for every column of a table. -/
def attempts (target : String → String) (metadata : TableMetadata) :
    List ColumnAttempt :=
  metadata.columns.map (⟨metadata.name, target metadata.name, ·⟩)

/-- The records that a table asks for: for the columns that its object type has
to do without, and for those that its input type has to do without. -/
def skippedColumns (catalog : Catalog) (metadata : TableMetadata) :
    List SkippedColumn :=
  (metadata.attempts Naming.typeName).filterMap (·.record? catalog) ++
    (metadata.attempts Naming.inputTypeName).filterMap (·.record? catalog)

theorem places_attempts (target : String → String)
    (metadata : TableMetadata) :
    (metadata.attempts target).map ColumnAttempt.place =
      metadata.columnNames.map (target metadata.name, ·) := by
  unfold attempts columnNames
  rw [List.map_map, List.map_map]
  rfl

/-- Attempts are for different places if the targets of the tables are
different and the columns of each table are. -/
theorem nodup_places {target : String → String}
    {tables : List TableMetadata}
    (targets : (tables.map fun metadata => target metadata.name).Nodup)
    (columns : ∀ metadata ∈ tables, metadata.columnNames.Nodup) :
    ((tables.flatMap (attempts target)).map ColumnAttempt.place).Nodup := by
  rw [List.map_flatMap]
  simp only [places_attempts]
  rw [List.nodup_flatMap]
  constructor
  · intro metadata member
    exact (columns metadata member).map fun _ _ same => (Prod.mk.inj same).2
  · rw [List.Nodup, List.pairwise_map] at targets
    refine targets.imp ?_
    intro first second different place inFirst inSecond
    obtain ⟨_, _, rfl⟩ := List.mem_map.mp inFirst
    obtain ⟨_, _, same⟩ := List.mem_map.mp inSecond
    exact different (Prod.mk.inj same).1.symm

theorem mem_places_iff {target : String → String}
    {tables : List TableMetadata} {place : String × String} :
    place ∈ (tables.flatMap (attempts target)).map ColumnAttempt.place ↔
      ∃ metadata ∈ tables, target metadata.name = place.1 ∧
        place.2 ∈ metadata.columnNames := by
  obtain ⟨wanted, column⟩ := place
  rw [List.map_flatMap]
  simp only [places_attempts, List.mem_flatMap, List.mem_map,
    Prod.mk.injEq]
  constructor
  · rintro ⟨metadata, member, _, named, same, rfl⟩
    exact ⟨metadata, member, same, named⟩
  · rintro ⟨metadata, member, same, named⟩
    exact ⟨metadata, member, column, named, same, rfl⟩

/-- The records of failed attempts, by the columns that they are about. -/
theorem mem_failures_iff {catalog : Catalog} {target : String → String}
    {tables : List TableMetadata} {record : SkippedColumn} :
    record ∈ (tables.flatMap (attempts target)).filterMap
        (·.record? catalog) ↔
      ∃ metadata ∈ tables, ∃ column ∈ metadata.columns, ∃ reason,
        catalog.mapColumnType column = .error reason ∧
          record =
            ⟨metadata.name, column.name, target metadata.name, reason⟩ := by
  unfold attempts
  simp only [List.mem_filterMap, List.mem_flatMap, List.mem_map,
    ColumnAttempt.record?_eq_some_iff]
  constructor
  · rintro ⟨_, ⟨metadata, member, column, columnMember, rfl⟩, failed⟩
    exact ⟨metadata, member, column, columnMember, failed⟩
  · rintro ⟨metadata, member, column, columnMember, failed⟩
    exact ⟨_, ⟨metadata, member, column, columnMember, rfl⟩, failed⟩

end TableMetadata

/-- What is left of a list after filtering is as much as before only if nothing
was taken away. -/
theorem filter_append_perm_iff {item : Type} (keep : item → Bool)
    (first second : List item) :
    (first.filter keep ++ second).Perm (first ++ second) ↔
      ∀ element ∈ first, keep element = true := by
  rw [List.perm_append_right_iff, ← List.filter_eq_self]
  constructor
  · intro same
    exact List.filter_sublist.eq_of_length same.length_eq
  · intro same
    rw [same]

namespace Compiler

section Passes

variable (catalog : Catalog) (compiler : Compiler)

theorem skipped_mapColumn (table target : String) (column : Column) :
    (mapColumn catalog table target column compiler).2.skipped =
      ColumnAttempt.apply catalog compiler.skipped
        ⟨table, target, column⟩ := by
  have others : withoutSkipped target column.name compiler.skipped =
      compiler.skipped.filter (·.place ≠ (target, column.name)) := by
    apply List.filter_congr
    intro record _
    rw [Bool.eq_iff_iff]
    simp [SkippedColumn.place]
  unfold mapColumn ColumnAttempt.apply ColumnAttempt.record?
    ColumnAttempt.place
  rw [← others]
  cases catalog.mapColumnType column with
  | ok scalar => simp
  | error reason => rfl

theorem skipped_mapTypeColumn (table target : String) (column : Column) :
    (mapTypeColumn catalog table target compiler column).skipped =
      ColumnAttempt.apply catalog compiler.skipped
        ⟨table, target, column⟩ := by
  rw [← skipped_mapColumn]
  unfold mapTypeColumn
  cases mapColumn catalog table target column compiler with
  | mk type next => cases type <;> rfl

theorem skipped_mapInputColumn (table target : String) (column : Column) :
    (mapInputColumn catalog table target compiler column).skipped =
      ColumnAttempt.apply catalog compiler.skipped
        ⟨table, target, column⟩ := by
  rw [← skipped_mapColumn]
  unfold mapInputColumn
  cases mapColumn catalog table target column compiler with
  | mk type next => cases type <;> rfl

theorem skipped_addField (typeName : String) (field : FieldDefinition) :
    (compiler.addField typeName field).skipped = compiler.skipped := rfl

theorem skipped_mapType (metadata : TableMetadata) :
    (mapType catalog metadata compiler).skipped =
      (metadata.attempts Naming.typeName).foldl (ColumnAttempt.apply catalog)
        compiler.skipped := by
  unfold mapType TableMetadata.attempts
  dsimp only
  rw [foldl_unchanged skipped fun current relation =>
      skipped_addField current _ (reverseFieldOf relation),
    foldl_unchanged skipped fun current key =>
      skipped_addField current _ (foreignFieldOf key),
    List.foldl_map]
  exact (List.foldl_hom skipped fun current column =>
    (skipped_mapTypeColumn catalog current _ _ column).symm).symm

theorem skipped_mapInput (metadata : TableMetadata) :
    (mapInput catalog metadata compiler).skipped =
      (metadata.attempts Naming.inputTypeName).foldl
        (ColumnAttempt.apply catalog) compiler.skipped := by
  unfold mapInput TableMetadata.attempts
  dsimp only
  rw [List.foldl_map]
  exact (List.foldl_hom skipped fun current column =>
    (skipped_mapInputColumn catalog current _ _ column).symm).symm

variable {catalog} in
/-- Over several tables a pass makes the attempts that it makes over each. -/
theorem skipped_overTables {pass : TableMetadata → Compiler → Compiler}
    {attempts : TableMetadata → List ColumnAttempt}
    (law : ∀ metadata current,
      (pass metadata current).skipped =
        (attempts metadata).foldl (ColumnAttempt.apply catalog)
          current.skipped)
    (tables : List TableMetadata) :
    (overTables pass tables compiler).skipped =
      (tables.flatMap attempts).foldl (ColumnAttempt.apply catalog)
        compiler.skipped := by
  induction tables generalizing compiler with
  | nil => rfl
  | cons head tail inductionHypothesis =>
      refine (inductionHypothesis _).trans ?_
      rw [law, List.flatMap_cons, List.foldl_append]

/-- All attempts of a compiler: first those for the object types of all tables,
then those for the input types. -/
theorem skipped_mapAll (tables : List TableMetadata) :
    (compiler.mapAll catalog tables).skipped =
      (tables.flatMap (·.attempts Naming.inputTypeName)).foldl
        (ColumnAttempt.apply catalog)
        ((tables.flatMap (·.attempts Naming.typeName)).foldl
          (ColumnAttempt.apply catalog) compiler.skipped) := by
  have pages (metadata : TableMetadata) (current : Compiler) :
      (mapPage metadata.name current).skipped = current.skipped := rfl
  have queries (metadata : TableMetadata) (current : Compiler) :
      (mapQuery metadata.name current).skipped = current.skipped := rfl
  have mutations (metadata : TableMetadata) (current : Compiler) :
      (mapMutation metadata.name current).skipped = current.skipped := rfl
  unfold mapAll
  dsimp only
  rw [overTables_unchanged skipped mutations,
    skipped_overTables _ fun metadata current =>
      skipped_mapInput catalog current metadata,
    overTables_unchanged skipped queries,
    overTables_unchanged skipped pages,
    skipped_overTables _ fun metadata current =>
      skipped_mapType catalog current metadata]

end Passes

/-! ## The report -/

section Report

variable {catalog : Catalog} {tables : List TableMetadata}

/-- The second attempts strike the records of the first ones that are for the
same places. -/
theorem skipped_mapAll_fresh
    (types : (tables.map fun metadata =>
      Naming.typeName metadata.name).Nodup)
    (columns : ∀ metadata ∈ tables, metadata.columnNames.Nodup) :
    (fresh.mapAll catalog tables).skipped =
      ((tables.flatMap (·.attempts Naming.typeName)).filterMap
          (·.record? catalog)).filter
        (·.place ∉ (tables.flatMap (·.attempts Naming.inputTypeName)).map
          ColumnAttempt.place) ++
        (tables.flatMap (·.attempts Naming.inputTypeName)).filterMap
          (·.record? catalog) := by
  have inputs : (tables.map fun metadata =>
      Naming.inputTypeName metadata.name).Nodup :=
    (Naming.nodup_map_append_iff tables _ "Input").mpr types
  rw [skipped_mapAll,
    ColumnAttempt.foldl_apply catalog
      (TableMetadata.nodup_places types columns),
    ColumnAttempt.foldl_apply catalog
      (TableMetadata.nodup_places inputs columns)]
  rfl

/-- The records that the tables ask for are those of all failed attempts. -/
theorem flatMap_skippedColumns_perm (catalog : Catalog)
    (tables : List TableMetadata) :
    (tables.flatMap (·.skippedColumns catalog)).Perm
      ((tables.flatMap (·.attempts Naming.typeName)).filterMap
          (·.record? catalog) ++
        (tables.flatMap (·.attempts Naming.inputTypeName)).filterMap
          (·.record? catalog)) := by
  rw [List.filterMap_flatMap, List.filterMap_flatMap]
  exact (List.flatMap_append_perm tables _ _).symm

/-- A record of an object type is struck by an attempt for an input type of the
same name, if it has a column of the same name. -/
theorem forall_place_not_mem_iff :
    (∀ record ∈ (tables.flatMap (·.attempts Naming.typeName)).filterMap
        (·.record? catalog),
      record.place ∉ (tables.flatMap
        (·.attempts Naming.inputTypeName)).map ColumnAttempt.place) ↔
    ∀ first ∈ tables, ∀ second ∈ tables,
      Naming.typeName second.name = Naming.inputTypeName first.name →
      ∀ column ∈ second.columns, column.name ∈ first.columnNames →
        ∃ scalar, catalog.mapColumnType column = .ok scalar := by
  constructor
  · intro separate first firstMember second secondMember sameName column
      columnMember named
    cases mapped : catalog.mapColumnType column with
    | ok scalar => exact ⟨scalar, rfl⟩
    | error reason =>
        refine absurd (TableMetadata.mem_places_iff.mpr ?_)
          (separate _ (TableMetadata.mem_failures_iff.mpr
            ⟨second, secondMember, column, columnMember, reason, mapped, rfl⟩))
        exact ⟨first, firstMember, sameName.symm, named⟩
  · intro mapped record member struck
    obtain ⟨second, secondMember, column, columnMember, reason, failed, rfl⟩ :=
      TableMetadata.mem_failures_iff.mp member
    obtain ⟨first, firstMember, sameName, named⟩ :=
      TableMetadata.mem_places_iff.mp struck
    obtain ⟨scalar, found⟩ :=
      mapped first firstMember second secondMember sameName.symm column
        columnMember named
    rw [failed] at found
    cases found

/-- The report holds nothing but the records that the tables ask for. It holds
all of them exactly when every column of an object type that is named like a
column of an input type of the same name can be mapped. -/
theorem skipped_perm_iff {compiler : Compiler}
    (found : catalog.allMetadata = .ok tables)
    (types : (tables.map fun metadata =>
      Naming.typeName metadata.name).Nodup)
    (columns : ∀ metadata ∈ tables, metadata.columnNames.Nodup)
    (built : fresh.build catalog = .ok compiler) :
    compiler.skipped.Subperm (tables.flatMap (·.skippedColumns catalog)) ∧
    (compiler.skipped.Perm (tables.flatMap (·.skippedColumns catalog)) ↔
      ∀ first ∈ tables, ∀ second ∈ tables,
        Naming.typeName second.name = Naming.inputTypeName first.name →
        ∀ column ∈ second.columns, column.name ∈ first.columnNames →
          ∃ scalar, catalog.mapColumnType column = .ok scalar) := by
  obtain ⟨sameTables, sameFound, rfl⟩ := exists_metadata_of_build built
  obtain rfl : sameTables = tables :=
    Except.ok.inj (sameFound.symm.trans found)
  have asked := flatMap_skippedColumns_perm catalog sameTables
  rw [skipped_mapAll_fresh types columns, ← forall_place_not_mem_iff]
  constructor
  · refine List.Subperm.trans (List.Sublist.subperm ?_) asked.symm.subperm
    exact List.filter_sublist.append_right _
  · -- The records of the input types come last, so that only those of the
    -- object types can be missing.
    rw [asked.congr_right, filter_append_perm_iff]
    simp only [decide_eq_true_iff]

/-- A column of two tables, where one table is named like the input type of the
other, and where it is not. -/
theorem not_skipped_perm_noteInput :
    let table (name : String) : TableMetadata :=
      ⟨name, [⟨"body", "tsvector", none⟩], []⟩
    let catalog (names : List String) : Catalog :=
      ⟨names, fun name => .ok (table name), fun column =>
        .error (.unsupportedType column.name column.nativeType)⟩
    (∃ compiler,
      fresh.build (catalog ["note", "note_input"]) = .ok compiler ∧
      ¬compiler.skipped.Perm
        ([table "note", table "note_input"].flatMap
          (·.skippedColumns (catalog ["note", "note_input"])))) ∧
    ∃ compiler,
      fresh.build (catalog ["note", "page"]) = .ok compiler ∧
      compiler.skipped.Perm
        ([table "note", table "page"].flatMap
          (·.skippedColumns (catalog ["note", "page"]))) := by
  intro table catalog
  have oneColumn (names : List String) : ∀ metadata ∈ names.map table,
      metadata.columnNames.Nodup := by
    intro metadata member
    obtain ⟨name, _, rfl⟩ := List.mem_map.mp member
    exact List.nodup_singleton _
  refine ⟨⟨_, rfl, ?_⟩, ⟨_, rfl, ?_⟩⟩
  · intro complete
    have report := skipped_perm_iff
      (rfl : (catalog ["note", "note_input"]).allMetadata =
        .ok [table "note", table "note_input"])
      (by decide +kernel) (oneColumn ["note", "note_input"]) rfl
    obtain ⟨scalar, mapped⟩ :=
      report.2.mp complete (table "note") (by decide)
        (table "note_input") (by decide) (by decide +kernel)
        ⟨"body", "tsvector", none⟩ (by decide) (by decide)
    cases mapped
  · have report := skipped_perm_iff
      (rfl : (catalog ["note", "page"]).allMetadata =
        .ok [table "note", table "page"])
      (by decide +kernel) (oneColumn ["note", "page"]) rfl
    have otherNames : ∀ first ∈ [table "note", table "page"],
        ∀ second ∈ [table "note", table "page"],
        Naming.typeName second.name ≠ Naming.inputTypeName first.name := by
      decide +kernel
    exact report.2.mpr fun first firstMember second secondMember same =>
      absurd same (otherNames first firstMember second secondMember)

end Report

end Compiler

end TableGateway
