import TableGateway.Proofs.Schema.SkippedColumns

/-!
# The work of a compiler

Whatever a compiler does for its tables comes down to writes to its model and to
attempts to map columns. Which these are does not depend on the compiler
(`Compiler.build_eq_map`, `Compiler.buildTable_eq_map`), and the text that was
rendered is never touched. The same work once more changes nothing
(`Compiler.carryOut_carryOut`).
-/

namespace TableGateway

attribute [ext] Compiler

/-- Writes to a model and attempts to map columns. -/
structure CompilerWork where
  writes : List ModelWrite
  attempts : List ColumnAttempt

/-- A table of which nothing but the name is known. -/
def TableMetadata.ofName (table : String) : TableMetadata :=
  ⟨table, [], []⟩

namespace CompilerWork

instance : Append CompilerWork where
  append first second :=
    ⟨first.writes ++ second.writes, first.attempts ++ second.attempts⟩

theorem writes_append (first second : CompilerWork) :
    (first ++ second).writes = first.writes ++ second.writes := rfl

/-! ### The work of every pass -/

def onType (catalog : Catalog) (metadata : TableMetadata) : CompilerWork :=
  ⟨Compiler.typePass catalog metadata, metadata.attempts Naming.typeName⟩

def onPage (table : String) : CompilerWork :=
  ⟨Compiler.pagePass (.ofName table), []⟩

def onQuery (table : String) : CompilerWork :=
  ⟨Compiler.queryPass (.ofName table), []⟩

def onInput (catalog : Catalog) (metadata : TableMetadata) : CompilerWork :=
  ⟨Compiler.inputPass catalog metadata,
    metadata.attempts Naming.inputTypeName⟩

def onMutation (table : String) : CompilerWork :=
  ⟨Compiler.mutationPass (.ofName table), []⟩

/-- All passes over one table. -/
def onTable (catalog : Catalog) (table : String)
    (metadata : TableMetadata) : CompilerWork :=
  onType catalog metadata ++ onPage table ++ onQuery table ++
    onInput catalog metadata ++ onMutation table

/-- Every pass over all tables. -/
def onAll (catalog : Catalog) (tables : List TableMetadata) : CompilerWork :=
  ⟨Compiler.allPasses catalog tables,
    tables.flatMap (·.attempts Naming.typeName) ++
      tables.flatMap (·.attempts Naming.inputTypeName)⟩

end CompilerWork

namespace Compiler

/-- Make all writes and all attempts of a work. -/
def carryOut (catalog : Catalog) (work : CompilerWork)
    (compiler : Compiler) : Compiler :=
  { compiler with
    model := compiler.model.writeAll work.writes
    skipped := work.attempts.foldl (ColumnAttempt.apply catalog)
      compiler.skipped }

theorem carryOut_append (catalog : Catalog) (first second : CompilerWork)
    (compiler : Compiler) :
    compiler.carryOut catalog (first ++ second) =
      (compiler.carryOut catalog first).carryOut catalog second := by
  apply Compiler.ext
  · exact compiler.model.writeAll_append first.writes second.writes
  · exact List.foldl_append
  · rfl

/-- The same work once more changes nothing. -/
theorem carryOut_carryOut (catalog : Catalog) (work : CompilerWork)
    (compiler : Compiler) :
    (compiler.carryOut catalog work).carryOut catalog work =
      compiler.carryOut catalog work := by
  apply Compiler.ext
  · exact compiler.model.writeAll_writeAll work.writes
  · exact ColumnAttempt.foldl_apply_foldl_apply catalog work.attempts
      compiler.skipped
  · rfl

/-! ## The text that was rendered, which no pass touches -/

section Rendered

variable (catalog : Catalog)

theorem rendered_mapColumn (table target : String) (column : Column)
    (compiler : Compiler) :
    (mapColumn catalog table target column compiler).2.rendered =
      compiler.rendered := by
  unfold mapColumn
  cases catalog.mapColumnType column with
  | ok scalar => rfl
  | error reason => rfl

theorem rendered_mapTypeColumn (table target : String)
    (compiler : Compiler) (column : Column) :
    (mapTypeColumn catalog table target compiler column).rendered =
      compiler.rendered := by
  rw [← rendered_mapColumn catalog table target column compiler]
  unfold mapTypeColumn
  cases mapColumn catalog table target column compiler with
  | mk type next =>
      cases type with
      | none => rfl
      | some type => rfl

theorem rendered_mapInputColumn (table target : String)
    (compiler : Compiler) (column : Column) :
    (mapInputColumn catalog table target compiler column).rendered =
      compiler.rendered := by
  rw [← rendered_mapColumn catalog table target column compiler]
  unfold mapInputColumn
  cases mapColumn catalog table target column compiler with
  | mk type next =>
      cases type with
      | none => rfl
      | some type => rfl

theorem rendered_addField (typeName : String) (field : FieldDefinition)
    (compiler : Compiler) :
    (compiler.addField typeName field).rendered = compiler.rendered := rfl

theorem rendered_mapType (metadata : TableMetadata) (compiler : Compiler) :
    (mapType catalog metadata compiler).rendered = compiler.rendered := by
  unfold mapType
  dsimp only
  rw [foldl_unchanged rendered fun current relation =>
      rendered_addField _ (reverseFieldOf relation) current,
    foldl_unchanged rendered fun current key =>
      rendered_addField _ (foreignFieldOf key) current,
    foldl_unchanged rendered (rendered_mapTypeColumn catalog _ _)]

theorem rendered_mapInput (metadata : TableMetadata) (compiler : Compiler) :
    (mapInput catalog metadata compiler).rendered = compiler.rendered := by
  unfold mapInput
  dsimp only
  rw [foldl_unchanged rendered (rendered_mapInputColumn catalog _ _)]

theorem rendered_mapAll (tables : List TableMetadata)
    (compiler : Compiler) :
    (compiler.mapAll catalog tables).rendered = compiler.rendered := by
  have pageUnchanged (metadata : TableMetadata) (current : Compiler) :
      (mapPage metadata.name current).rendered = current.rendered := rfl
  have queryUnchanged (metadata : TableMetadata) (current : Compiler) :
      (mapQuery metadata.name current).rendered = current.rendered := rfl
  have mutationUnchanged (metadata : TableMetadata) (current : Compiler) :
      (mapMutation metadata.name current).rendered = current.rendered := rfl
  unfold mapAll
  dsimp only
  rw [overTables_unchanged rendered mutationUnchanged,
    overTables_unchanged rendered (rendered_mapInput catalog),
    overTables_unchanged rendered queryUnchanged,
    overTables_unchanged rendered pageUnchanged,
    overTables_unchanged rendered (rendered_mapType catalog)]

end Rendered

/-! ## The work of every pass -/

section Passes

variable (catalog : Catalog) (compiler : Compiler)

theorem mapType_eq_carryOut (metadata : TableMetadata) :
    mapType catalog metadata compiler =
      compiler.carryOut catalog (.onType catalog metadata) := by
  apply Compiler.ext
  · exact model_mapType_eq_writeAll catalog metadata compiler
  · exact skipped_mapType catalog compiler metadata
  · exact rendered_mapType catalog metadata compiler

theorem mapPage_eq_carryOut (table : String) :
    mapPage table compiler = compiler.carryOut catalog (.onPage table) := rfl

theorem mapQuery_eq_carryOut (table : String) :
    mapQuery table compiler =
      compiler.carryOut catalog (.onQuery table) := rfl

theorem mapInput_eq_carryOut (metadata : TableMetadata) :
    mapInput catalog metadata compiler =
      compiler.carryOut catalog (.onInput catalog metadata) := by
  apply Compiler.ext
  · exact model_mapInput catalog metadata compiler
  · exact skipped_mapInput catalog compiler metadata
  · exact rendered_mapInput catalog metadata compiler

theorem mapMutation_eq_carryOut (table : String) :
    mapMutation table compiler =
      compiler.carryOut catalog (.onMutation table) := rfl

theorem mapAll_eq_carryOut (tables : List TableMetadata) :
    compiler.mapAll catalog tables =
      compiler.carryOut catalog (.onAll catalog tables) := by
  apply Compiler.ext
  · exact model_mapAll catalog tables compiler
  · refine (skipped_mapAll catalog compiler tables).trans ?_
    exact List.foldl_append.symm
  · exact rendered_mapAll catalog tables compiler

theorem build_eq_map :
    compiler.build catalog =
      catalog.allMetadata.map fun tables =>
        compiler.carryOut catalog (.onAll catalog tables) := by
  unfold build
  simp only [mapAll_eq_carryOut]

theorem buildTable_eq_map (table : String) :
    compiler.buildTable catalog table =
      (catalog.tableMetadata table).map fun metadata =>
        compiler.carryOut catalog (.onTable catalog table metadata) := by
  unfold buildTable CompilerWork.onTable
  simp only [carryOut_append, ← mapType_eq_carryOut,
    ← mapPage_eq_carryOut, ← mapQuery_eq_carryOut, ← mapInput_eq_carryOut,
    ← mapMutation_eq_carryOut]

end Passes

end Compiler

end TableGateway
